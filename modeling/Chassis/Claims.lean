import Chassis.AuthKey
import Chassis.JsonLimits

set_option autoImplicit false

namespace Chassis.Auth

open JsonText

variable {κ : Type}

structure Principal where
  subject : Str
  issuer : Option Str
  audience : List Str
  scopes : List Str
  roles : List Str
  claims : Claims

-- claims.get(name); an absent claim and a null one are both None.
def claim (name : String) (claims : Claims) : Json := (Json.member name.toList claims).getD .null

def truthy : Json → Bool
  | .null => false
  | .bool value => value
  | .int n => n ≠ 0
  | .float value => value ≠ 0
  | .str text => text ≠ []
  | .array items => !items.isEmpty
  | .object members => !members.isEmpty

-- str.split() without an argument.
def splitWords (text : Str) : List Str := (text.splitOnP Text.isSpace).filter (fun word => word ≠ [])

-- value.replace(",", " ")
def commasToSpaces (text : Str) : Str := text.map (fun c => if c = ',' then ' ' else c)

section Normalizing

variable (interpreter : Interpreter)

def claimAsOptionalStr (value : Json) : Except PyException (Option Str) :=
  match value with
  | .null => .ok none
  | other => (str interpreter other).map some

def normalizeAudience (value : Json) : Except PyException (List Str) :=
  match value with
  | .null => .ok []
  | .array items => items.mapM (str interpreter)
  | other => (str interpreter other).map (fun text => [text])

def normalizeScopes (value : Json) : Except PyException (List Str) :=
  match value with
  | .null => .ok []
  | .str text => .ok ((splitWords text).filter (fun scope => scope ≠ []))
  | .array items => items.mapM (str interpreter)
  | other => (str interpreter other).map (fun text => [text])

def separatedRoles (text : Str) : List Str := (splitWords (commasToSpaces text)).filter (fun role => role ≠ [])

def normalizeRoles (value : Json) : Except PyException (List Str) :=
  match value with
  | .null => .ok []
  | .str text =>
      if startsWith "[".toList text then
        match loads interpreter text with
        | .error .jsonDecodeError => .ok [text]
        | .error raised => .error raised
        | .ok (.array decoded) => decoded.mapM (str interpreter)
        | .ok _ => .ok (separatedRoles text)
      else .ok (separatedRoles text)
  | .array items => items.mapM (str interpreter)
  | other => (str interpreter other).map (fun text => [text])

-- claims.get("scope") or claims.get("scp")
def scopeClaim (claims : Claims) : Json :=
  if truthy (claim "scope" claims) then claim "scope" claims else claim "scp" claims

inductive TokenFailure where
  | authenticationError (message : Str)
  | keyError
  | raised (failure : PyException)
deriving DecidableEq

-- The argument list of the Principal call, in its order.
def principalOf (claims : Claims) : Except TokenFailure Principal :=
  match Json.member "sub".toList claims with
  | none => .error .keyError
  | some sub => Except.mapError .raised do
      let subject ← str interpreter sub
      let issuer ← claimAsOptionalStr interpreter (claim "iss" claims)
      let audience ← normalizeAudience interpreter (claim "aud" claims)
      let scopes ← normalizeScopes interpreter (scopeClaim claims)
      let roles ← normalizeRoles interpreter (claim "roles" claims)
      .ok ⟨subject, issuer, audience, scopes, roles, claims⟩

def authenticateToken (library : JwtLibrary κ) (settings : Settings) (fetch : Bool → Except Failure Jwks)
    (token : Str) : Except TokenFailure Principal :=
  match (authenticateClaims library settings fetch token).1 with
  | .error message => .error (.authenticationError message)
  | .ok claims => principalOf interpreter claims

end Normalizing

structure HttpException where
  statusCode : Nat
  detail : Str
  headers : List (Str × Str)
deriving DecidableEq

inductive DependencyFailure where
  | http (exception : HttpException)
  | raised (failure : TokenFailure)
deriving DecidableEq

def unauthorized (detail : String) : HttpException :=
  ⟨401, detail.toList, [("WWW-Authenticate".toList, "Bearer".toList)]⟩

def getOptionalPrincipal (authenticate : Str → Except TokenFailure Principal) (credentials : Option Str) :
    Except DependencyFailure (Option Principal) :=
  match credentials with
  | none => .ok none
  | some token =>
      match authenticate token with
      | .ok principal => .ok (some principal)
      | .error (.authenticationError _) => .error (.http (unauthorized "Invalid bearer token"))
      | .error failure => .error (.raised failure)

def getCurrentPrincipal (principal : Option Principal) : Except DependencyFailure Principal :=
  match principal with
  | none => .error (.http (unauthorized "Missing bearer token"))
  | some principal => .ok principal

def requireGranted (kind : String) (granted : Principal → List Str) (required : List Str) (principal : Principal) :
    Except DependencyFailure Principal :=
  let missing := required.filter (fun name => name ∉ granted principal)
  if missing ≠ [] then
    .error (.http ⟨403, "Missing required ".toList ++ kind.toList ++ ": ".toList ++ Text.join ", ".toList missing, []⟩)
  else .ok principal

def requireScopes (requiredScopes : List Str) (principal : Principal) : Except DependencyFailure Principal :=
  requireGranted "scopes" Principal.scopes requiredScopes principal

def requireRoles (requiredRoles : List Str) (principal : Principal) : Except DependencyFailure Principal :=
  requireGranted "roles" Principal.roles requiredRoles principal

theorem require_granted_iff (kind : String) (granted : Principal → List Str) (required : List Str) (principal : Principal) :
    requireGranted kind granted required principal = .ok principal ↔ ∀ name ∈ required, name ∈ granted principal := by
  unfold requireGranted
  by_cases missing : required.filter (fun name => name ∉ granted principal) ≠ []
  · rw [if_pos missing]
    obtain ⟨name, listed⟩ := List.exists_mem_of_ne_nil _ missing
    obtain ⟨asked, absent⟩ := List.mem_filter.mp listed
    constructor
    · intro admitted
      cases admitted
    · intro all
      exact absurd (all name asked) (of_decide_eq_true absent)
  · rw [if_neg missing]
    refine ⟨fun _ name asked => ?_, fun _ => rfl⟩
    by_contra absent
    exact missing (List.ne_nil_of_mem (List.mem_filter.mpr ⟨asked, decide_eq_true absent⟩))

theorem principal_of_ok (interpreter : Interpreter) (claims : Claims) (principal : Principal)
    (built : principalOf interpreter claims = .ok principal) :
    principal.claims = claims ∧
      normalizeAudience interpreter (claim "aud" claims) = .ok principal.audience ∧
      normalizeScopes interpreter (scopeClaim claims) = .ok principal.scopes ∧
      normalizeRoles interpreter (claim "roles" claims) = .ok principal.roles := by
  unfold principalOf at built
  split at built
  next => cases built
  next sub found =>
    obtain ⟨subject, _, afterSubject⟩ := bind_ok _ _ _ ((map_error_ok _ _ _).mp built)
    obtain ⟨issuer, _, afterIssuer⟩ := bind_ok _ _ _ afterSubject
    obtain ⟨audience, heard, afterAudience⟩ := bind_ok _ _ _ afterIssuer
    obtain ⟨scopes, allowed, afterScopes⟩ := bind_ok _ _ _ afterAudience
    obtain ⟨roles, granted, done⟩ := bind_ok _ _ _ afterScopes
    cases done
    exact ⟨rfl, heard, allowed, granted⟩

-- What PyJWT documents of decode: the required claims are there, and the
-- payload was read with json.loads.
structure JwtContract (library : JwtLibrary κ) (interpreter : Interpreter) : Prop where
  required : ∀ call claims name, library.decode call = .ok claims → name ∈ call.require →
    ∃ value, Json.member name claims = some value
  payload : ∀ call claims, library.decode call = .ok claims → ∃ text, loads interpreter text = .ok (.object claims)

end Chassis.Auth
