import Chassis.ClaimErrors

set_option autoImplicit false

namespace Chassis.Auth

open JsonText Text

variable {κ : Type}

theorem split_words_append (left right : Str) (space : Char) (blank : isSpace space = true) :
    splitWords (left ++ space :: right) = splitWords left ++ splitWords right := by
  rw [splitWords, List.splitOnP_append_cons left right blank, List.filter_append]
  rfl

theorem split_words_word (word : Str) (nonempty : word ≠ []) (whole : ∀ c ∈ word, isSpace c = false) :
    splitWords word = [word] := by
  rw [splitWords, List.splitOnP_eq_singleton whole]
  simp [nonempty]

theorem split_words_spaces (spaces rest : Str) (blank : ∀ c ∈ spaces, isSpace c = true) :
    splitWords (spaces ++ rest) = splitWords rest := by
  induction spaces with
  | nil => rfl
  | cons c tail ih =>
      have dropped := split_words_append [] (tail ++ rest) c (blank c (by simp))
      have later := ih (fun other member => blank other (by simp [member]))
      have empty : splitWords [] = [] := rfl
      rw [empty, List.nil_append, List.nil_append, later] at dropped
      exact dropped

def ScopeName (name : Str) : Prop := name ≠ [] ∧ ∀ c ∈ name, isSpace c = false

def RoleName (name : Str) : Prop := ScopeName name ∧ ',' ∉ name

theorem split_words_join (separator : Str) (nonempty : separator ≠ []) (blank : ∀ c ∈ separator, isSpace c = true)
    (names : List Str) (each : ∀ name ∈ names, ScopeName name) : splitWords (join separator names) = names := by
  induction names with
  | nil => rfl
  | cons first rest ih =>
      have word := split_words_word first (each first (by simp)).1 (each first (by simp)).2
      cases rest with
      | nil => rw [join_single, word]
      | cons second rest =>
          have later := ih (fun name member => each name (by simp [List.mem_cons.mp member]))
          cases separator with
          | nil => exact absurd rfl nonempty
          | cons space spaces =>
              have cut := split_words_append first (spaces ++ join (space :: spaces) (second :: rest)) space
                (blank space (by simp))
              rw [split_words_spaces spaces _ (fun c member => blank c (by simp [member])), later, word] at cut
              rw [join_cons, List.append_assoc, List.cons_append, cut]
              rfl

theorem commas_to_spaces_join (separator : Str) (names : List Str) (each : ∀ name ∈ names, RoleName name) :
    commasToSpaces (join separator names) = join (commasToSpaces separator) names := by
  have kept (name : Str) (named : RoleName name) : commasToSpaces name = name := by
    refine (List.map_congr_left ?_).trans (List.map_id name)
    intro c member
    exact if_neg (fun comma : c = ',' => named.2 (comma ▸ member))
  induction names with
  | nil => rfl
  | cons first rest ih =>
      have own := kept first (each first (by simp))
      cases rest with
      | nil => rw [join_single, join_single, own]
      | cons second rest =>
          have later := ih (fun name member => each name (by simp [List.mem_cons.mp member]))
          rw [join_cons, join_cons, ← later, commasToSpaces, List.map_append, List.map_append]
          exact congrArg (fun head => head ++ _ ++ _) own

theorem words_kept (names : List Str) (each : ∀ name ∈ names, ScopeName name) :
    names.filter (fun name => name ≠ []) = names :=
  List.filter_eq_self.mpr (fun name member => decide_eq_true (each name member).1)

inductive RoleEncoding where
  | array
  | commas
  | commaSpaces
  | spaces
  | jsonText (options : DumpsOptions)

def encodeRoles (roles : List Str) : RoleEncoding → Json
  | .array => .array (roles.map Json.str)
  | .commas => .str (join ",".toList roles)
  | .commaSpaces => .str (join ", ".toList roles)
  | .spaces => .str (join " ".toList roles)
  | .jsonText options => .str (dumpsList options roles)

inductive ScopeEncoding where
  | array
  | spaces

def encodeScopes (scopes : List Str) : ScopeEncoding → Json
  | .array => .array (scopes.map Json.str)
  | .spaces => .str (join " ".toList scopes)

section Encodings

variable (interpreter : Interpreter)

theorem str_items (names : List Str) : (names.map Json.str).mapM (str interpreter) = .ok names := by
  induction names with
  | nil => rfl
  | cons first rest ih =>
      rw [List.map_cons, List.mapM_cons, ih]
      rfl

theorem separated_roles (separator : Str) (nonempty : separator ≠ [])
    (blank : ∀ c ∈ commasToSpaces separator, isSpace c = true) (roles : List Str)
    (each : ∀ role ∈ roles, RoleName role) (bracket : ∀ role ∈ roles.head?, startsWith "[".toList role = false) :
    normalizeRoles interpreter (.str (join separator roles)) = .ok roles := by
  have words : separatedRoles (join separator roles) = roles := by
    have scopes : ∀ role ∈ roles, ScopeName role := fun role member => (each role member).1
    rw [separatedRoles, commas_to_spaces_join separator roles each,
      split_words_join _ (by simpa [commasToSpaces] using nonempty) blank roles scopes, words_kept roles scopes]
  have plain : startsWith "[".toList (join separator roles) = false := by
    cases roles with
    | nil => simp [startsWith, join, List.intercalate]
    | cons first rest =>
        have own := bracket first rfl
        have named := (each first (by simp)).1.1
        obtain ⟨c, tail, same⟩ := List.exists_cons_of_ne_nil named
        subst same
        cases rest <;> simpa [startsWith, List.isPrefixOf] using own
  simp only [normalizeRoles]
  rw [plain, if_neg Bool.false_ne_true, words]

theorem normalize_encoded_roles (roles : List Str) (each : ∀ role ∈ roles, RoleName role)
    (bracket : ∀ role ∈ roles.head?, startsWith "[".toList role = false) (encoding : RoleEncoding) :
    normalizeRoles interpreter (encodeRoles roles encoding) = .ok roles := by
  cases encoding with
  | array => exact str_items interpreter roles
  | commas => exact separated_roles interpreter ",".toList (by simp) (by simp [commasToSpaces, isSpace]) roles each bracket
  | commaSpaces =>
      exact separated_roles interpreter ", ".toList (by simp) (by simp [commasToSpaces, isSpace]) roles each bracket
  | spaces => exact separated_roles interpreter " ".toList (by simp) (by simp [commasToSpaces, isSpace]) roles each bracket
  | jsonText options =>
      have opened : startsWith "[".toList (dumpsList options roles) = true := by simp [startsWith, dumpsList]
      simp only [encodeRoles, normalizeRoles]
      rw [if_pos opened, loads_dumps_list]
      exact str_items interpreter roles

theorem normalize_encoded_scopes (scopes : List Str) (each : ∀ scope ∈ scopes, ScopeName scope) (encoding : ScopeEncoding) :
    normalizeScopes interpreter (encodeScopes scopes encoding) = .ok scopes := by
  cases encoding with
  | array => exact str_items interpreter scopes
  | spaces =>
      simp only [encodeScopes, normalizeScopes]
      rw [split_words_join " ".toList (by simp) (by simp [isSpace]) scopes each, words_kept scopes each]

end Encodings

-- claims.get("scope") or claims.get("scp") reaches this value.
def CarriesScopes (claims : Claims) (value : Json) : Prop :=
  (claim "scope" claims = value ∧ (truthy value = true ∨ claim "scp" claims = .null)) ∨
    (truthy (claim "scope" claims) = false ∧ claim "scp" claims = value)

theorem encoded_scopes_truthy (scopes : List Str) (each : ∀ scope ∈ scopes, ScopeName scope) (encoding : ScopeEncoding) :
    truthy (encodeScopes scopes encoding) = true ∨ scopes = [] := by
  cases scopes with
  | nil => exact .inr rfl
  | cons first rest =>
      have nonempty := (each first (by simp)).1
      left
      cases encoding with
      | array => rfl
      | spaces => cases rest <;> simp [encodeScopes, truthy, nonempty]

theorem carried_scopes (interpreter : Interpreter) (claims : Claims) (scopes : List Str)
    (each : ∀ scope ∈ scopes, ScopeName scope) (encoding : ScopeEncoding)
    (carried : CarriesScopes claims (encodeScopes scopes encoding)) :
    normalizeScopes interpreter (scopeClaim claims) = .ok scopes := by
  have encoded := normalize_encoded_scopes interpreter scopes each encoding
  unfold scopeClaim
  obtain ⟨own, other⟩ | ⟨absent, named⟩ := carried
  · rcases other with full | absent
    · rw [own, if_pos full, encoded]
    · rw [own, absent]
      rcases encoded_scopes_truthy scopes each encoding with full | none
      · rw [if_pos full, encoded]
      · split
        next => exact encoded
        next => rw [none]; rfl
  · rw [if_neg (by simp [absent]), named, encoded]

def given (condition : Bool) (name : String) (value : Json) : Claims := if condition then [(name.toList, value)] else []

-- The payload of build_test_jwt; exp is its timestamp.
def buildTestPayload (subject : Str) (audience issuer : Option Str) (scopes roles : Option (List Str)) (exp : Int) :
    Claims :=
  [("sub".toList, .str subject), ("exp".toList, .int exp)] ++
    given (audience.getD [] ≠ []) "aud" (.str (audience.getD [])) ++
    given (issuer.getD [] ≠ []) "iss" (.str (issuer.getD [])) ++
    given (scopes.getD [] ≠ []) "scope" (.str (join " ".toList (scopes.getD []))) ++
    given (roles.getD [] ≠ []) "roles" (.array ((roles.getD []).map Json.str))

theorem member_append (name : Str) (left right : List (Str × Json)) :
    Json.member name (left ++ right) = (Json.member name left).or (Json.member name right) := by
  induction left with
  | nil => rfl
  | cons member rest ih =>
      obtain ⟨other, value⟩ := member
      by_cases same : other = name
      · simp [Json.member, same]
      · simp [Json.member, same, ih]

theorem member_given (condition : Bool) (name : Str) (other : String) (value : Json) :
    Json.member name (given condition other value) = if other.toList = name ∧ condition = true then some value else none := by
  cases condition with
  | false => simp [given, Json.member]
  | true => simp [given, Json.member]

theorem test_payload_claims (subject : Str) (audience issuer : Option Str) (scopes roles : Option (List Str)) (exp : Int) :
    claim "scope" (buildTestPayload subject audience issuer scopes roles exp) =
        (if scopes.getD [] ≠ [] then .str (join " ".toList (scopes.getD [])) else .null) ∧
      claim "scp" (buildTestPayload subject audience issuer scopes roles exp) = .null ∧
      claim "roles" (buildTestPayload subject audience issuer scopes roles exp) =
        (if roles.getD [] ≠ [] then .array ((roles.getD []).map Json.str) else .null) := by
  refine ⟨?_, ?_, ?_⟩
  · by_cases full : scopes.getD [] = [] <;>
      simp [claim, buildTestPayload, member_append, member_given, Json.member, full]
  · simp [claim, buildTestPayload, member_append, member_given, Json.member]
  · by_cases full : roles.getD [] = [] <;>
      simp [claim, buildTestPayload, member_append, member_given, Json.member, full]

theorem test_payload_normalized (interpreter : Interpreter) (subject : Str) (audience issuer : Option Str)
    (scopes roles : Option (List Str)) (exp : Int) (each : ∀ scope ∈ scopes.getD [], ScopeName scope) :
    normalizeScopes interpreter (scopeClaim (buildTestPayload subject audience issuer scopes roles exp)) =
        .ok (scopes.getD []) ∧
      normalizeRoles interpreter (claim "roles" (buildTestPayload subject audience issuer scopes roles exp)) =
        .ok (roles.getD []) := by
  obtain ⟨scope, scp, role⟩ := test_payload_claims subject audience issuer scopes roles exp
  constructor
  · rw [scopeClaim, scope, scp]
    by_cases full : scopes.getD [] ≠ []
    · have reached := (encoded_scopes_truthy (scopes.getD []) each .spaces).resolve_right full
      rw [if_pos full]
      simp only [encodeScopes] at reached
      rw [if_pos reached]
      exact normalize_encoded_scopes interpreter (scopes.getD []) each .spaces
    · rw [if_neg full, not_not.mp full]
      rfl
  · rw [role]
    by_cases full : roles.getD [] ≠ []
    · rw [if_pos full]
      exact str_items interpreter (roles.getD [])
    · rw [if_neg full, not_not.mp full]
      rfl

theorem authenticated_principal (interpreter : Interpreter) (library : JwtLibrary κ) (settings : Settings)
    (fetch : Bool → Except Failure Jwks) (token : Str) (principal : Principal)
    (authenticated : authenticateToken interpreter library settings fetch token = .ok principal) :
    normalizeScopes interpreter (scopeClaim principal.claims) = .ok principal.scopes ∧
      normalizeRoles interpreter (claim "roles" principal.claims) = .ok principal.roles := by
  unfold authenticateToken at authenticated
  cases done : (authenticateClaims library settings fetch token).1 with
  | error message =>
      rw [done] at authenticated
      cases authenticated
  | ok claims =>
      rw [done] at authenticated
      obtain ⟨same, _, fields⟩ := principal_of_ok interpreter claims principal authenticated
      rwa [same]

theorem encodings_agree (interpreter : Interpreter) (roles scopes : List Str)
    (roleNames : ∀ role ∈ roles, RoleName role)
    (bracket : ∀ role ∈ roles.head?, startsWith "[".toList role = false)
    (scopeNames : ∀ scope ∈ scopes, ScopeName scope) :
    (∀ encoding, normalizeRoles interpreter (encodeRoles roles encoding) = .ok roles) ∧
      (∀ encoding, normalizeScopes interpreter (encodeScopes scopes encoding) = .ok scopes) ∧
      (∀ subject audience issuer exp,
        let payload := buildTestPayload subject audience issuer (some scopes) (some roles) exp
        normalizeScopes interpreter (scopeClaim payload) = .ok scopes ∧
          normalizeRoles interpreter (claim "roles" payload) = .ok roles) ∧
      ∀ (library : JwtLibrary κ) settings fetch token principal,
        authenticateToken interpreter library settings fetch token = .ok principal →
          (∀ encoding, claim "roles" principal.claims = encodeRoles roles encoding →
            ∀ required, requireRoles required principal = .ok principal ↔ ∀ role ∈ required, role ∈ roles) ∧
          ∀ encoding, CarriesScopes principal.claims (encodeScopes scopes encoding) →
            ∀ required, requireScopes required principal = .ok principal ↔ ∀ scope ∈ required, scope ∈ scopes := by
  refine ⟨normalize_encoded_roles interpreter roles roleNames bracket,
    normalize_encoded_scopes interpreter scopes scopeNames, ?_, ?_⟩
  · intro subject audience issuer exp
    exact test_payload_normalized interpreter subject audience issuer (some scopes) (some roles) exp scopeNames
  · intro library settings fetch token principal authenticated
    obtain ⟨scopesRead, rolesRead⟩ := authenticated_principal interpreter library settings fetch token principal authenticated
    constructor
    · intro encoding carried required
      rw [carried, normalize_encoded_roles interpreter roles roleNames bracket encoding] at rolesRead
      rw [requireRoles, require_granted_iff, ← Except.ok.inj rolesRead]
    · intro encoding carried required
      rw [carried_scopes interpreter principal.claims scopes scopeNames encoding carried] at scopesRead
      rw [requireScopes, require_granted_iff, ← Except.ok.inj scopesRead]

theorem encodings_agree_admin :
    (∀ encoding, normalizeRoles cpython (encodeRoles ["admin".toList, "on\"call".toList] encoding) =
        .ok ["admin".toList, "on\"call".toList]) ∧
      ∀ encoding, normalizeScopes cpython (encodeScopes ["reports:read".toList] encoding) = .ok ["reports:read".toList] := by
  have agree := encodings_agree (κ := Unit) cpython ["admin".toList, "on\"call".toList] ["reports:read".toList]
    (by simp [RoleName, ScopeName, isSpace]) (by simp [startsWith, List.isPrefixOf]) (by simp [ScopeName, isSpace])
  exact ⟨agree.1, agree.2.1⟩

end Chassis.Auth
