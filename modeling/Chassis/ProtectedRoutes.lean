import Chassis.ClaimErrors
import Chassis.JsonRender
import Chassis.JwksWithdrawal
import Chassis.SecurityStack

set_option autoImplicit false

namespace Chassis.Api

open Asgi Auth JsonRender JsonText Transition
open Security (HttpScope unhandledExceptionResponse)

inductive ProtectedRoute where
  | me
  | reports
  | admin
deriving DecidableEq

def reportsReader (principal : Principal) : Except DependencyFailure Principal :=
  requireScopes ["reports:read".toList] principal

def adminRole (principal : Principal) : Except DependencyFailure Principal := requireRoles ["admin".toList] principal

def ProtectedRoute.dependency : ProtectedRoute → Principal → Except DependencyFailure Principal
  | .me, principal => .ok principal
  | .reports, principal => reportsReader principal
  | .admin, principal => adminRole principal

-- The code point that a Char of a str stands for: itself, or a lone surrogate
-- where the interpreter put it in the place of one.
structure Spelling (interpreter : Interpreter) where
  point : Char → CodePoint
  lone : ∀ unit, (isHigh unit || isLow unit) = true → isSurrogate (point (interpreter.surrogate unit)) = true

section Endpoints

variable {interpreter : Interpreter} (spelling : Spelling interpreter)

def Spelling.text (text : Str) : PyStr := text.map spelling.point

def Spelling.texts (texts : List Str) : PyValue := .list (texts.map (fun text => .str (spelling.text text)))

def Spelling.optional : Option Str → PyValue
  | none => .none
  | some text => .str (spelling.text text)

def getMe (principal : Principal) : PyValue :=
  .dict
    [(.text "subject", .str (spelling.text principal.subject)), (.text "issuer", spelling.optional principal.issuer),
      (.text "audience", spelling.texts principal.audience), (.text "scopes", spelling.texts principal.scopes),
      (.text "roles", spelling.texts principal.roles)]

def getReports (principal : Principal) : PyValue :=
  .dict
    [(.text "status", .text "ok"), (.text "subject", .str (spelling.text principal.subject)),
      (.text "report_access", .bool true)]

def getAdminDashboard (principal : Principal) : PyValue :=
  .dict
    [(.text "status", .text "ok"), (.text "subject", .str (spelling.text principal.subject)), (.text "admin", .bool true)]

def ProtectedRoute.endpoint : ProtectedRoute → Principal → PyValue
  | .me => getMe spelling
  | .reports => getReports spelling
  | .admin => getAdminDashboard spelling

end Endpoints

-- The dependencies in the order in which they are resolved, then the route.
def serveRoute {interpreter : Interpreter} (spelling : Spelling interpreter) (route : ProtectedRoute)
    (authenticate : Str → Except TokenFailure Principal) (credentials : Option Str) : Except DependencyFailure PyValue := do
  let optional ← getOptionalPrincipal authenticate credentials
  let principal ← getCurrentPrincipal optional
  let granted ← route.dependency principal
  return route.endpoint spelling granted

def httpExceptionHandler (scope : HttpScope) (exception : HttpException) : JsonResponse :=
  { statusCode := exception.statusCode
    content := .object
      [("error".toList, Json.text "http_error"), ("detail".toList, .str exception.detail),
        ("path".toList, .str (getSanitizedScopePath scope.toScope))]
    headers := exception.headers }

-- What reaches the handler of the last resort.
inductive Unhandled where
  | token (raised : TokenFailure)
  | rendering (raised : RenderError)

inductive RouteAnswer (interpreter : Interpreter) where
  | rendered (response : RenderedResponse interpreter)
  | handled (response : JsonResponse)
  | traceback (raised : Unhandled)

-- ServerErrorMiddleware sends a traceback with the status 500 in debug mode.
def RouteAnswer.statusCode {interpreter : Interpreter} : RouteAnswer interpreter → Nat
  | .rendered response => response.statusCode
  | .handled response => response.statusCode
  | .traceback _ => 500

section Respond

variable (interpreter : Interpreter) (debug : Bool) (scope : HttpScope)

def serverError (raised : Unhandled) : RouteAnswer interpreter :=
  if debug then .traceback raised else .handled (unhandledExceptionResponse scope)

def respondWith : Except DependencyFailure PyValue → RouteAnswer interpreter
  | .ok content =>
      match jsonResponse interpreter 200 content with
      | .ok response => .rendered response
      | .error raised => serverError interpreter debug scope (.rendering raised)
  | .error (.http exception) => .handled (httpExceptionHandler scope exception)
  | .error (.raised raised) => serverError interpreter debug scope (.token raised)

end Respond

def ProtectedRoute.required : ProtectedRoute → List Str
  | .me => []
  | .reports => ["reports:read".toList]
  | .admin => ["admin".toList]

def ProtectedRoute.granted : ProtectedRoute → Principal → List Str
  | .admin => Principal.roles
  | _ => Principal.scopes

def ProtectedRoute.kind : ProtectedRoute → String
  | .admin => "roles"
  | _ => "scopes"

def ProtectedRoute.missing (route : ProtectedRoute) (principal : Principal) : List Str :=
  route.required.filter (fun name => name ∉ route.granted principal)

def forbidden (kind : String) (missing : List Str) : HttpException :=
  ⟨403, "Missing required ".toList ++ kind.toList ++ ": ".toList ++ Text.join ", ".toList missing, []⟩

theorem dependency_cases (route : ProtectedRoute) (principal : Principal) :
    route.dependency principal =
      if route.missing principal ≠ [] then .error (.http (forbidden route.kind (route.missing principal)))
      else .ok principal := by
  cases route <;> rfl

def ProtectedRoute.told (route : ProtectedRoute) (principal : Principal) : List Str :=
  match route with
  | .me => principal.subject :: principal.issuer.toList ++ principal.audience ++ principal.scopes ++ principal.roles
  | _ => [principal.subject]

theorem optional_renderable {interpreter : Interpreter} (spelling : Spelling interpreter) (depth : Nat)
    (text : Option Str) :
    Renderable interpreter depth (spelling.optional text) ↔ ∀ told ∈ text.toList, Encodable (spelling.text told) := by
  cases text with
  | none => simp [Spelling.optional, Renderable]
  | some text => simp [Spelling.optional, Renderable]

theorem endpoint_renderable_iff {interpreter : Interpreter} (spelling : Spelling interpreter) (deep : 2 ≤ interpreter.nesting)
    (route : ProtectedRoute) (principal : Principal) :
    Renderable interpreter interpreter.nesting (route.endpoint spelling principal) ↔
      ∀ text ∈ route.told principal, Encodable (spelling.text text) := by
  obtain ⟨depth, same⟩ := Nat.exists_eq_add_of_le' deep
  rw [same]
  cases route with
  | me =>
      simp [ProtectedRoute.endpoint, getMe, ProtectedRoute.told, Spelling.texts, renderable_dict, literal_key, Renderable,
        optional_renderable, or_imp, forall_and]
  | reports =>
      simp [ProtectedRoute.endpoint, getReports, ProtectedRoute.told, renderable_dict, literal_key, literal_value, Renderable]
  | admin =>
      simp [ProtectedRoute.endpoint, getAdminDashboard, ProtectedRoute.told, renderable_dict, literal_key, literal_value,
        Renderable]

section Service

variable {κ : Type} (settings : Settings) (library : JwtLibrary κ) (describe : Failure → Str) (interpreter : Interpreter)
  (debug : Bool) (spelling : Spelling interpreter)

-- authenticate_token from _resolve_key on, where nothing suspends.
def decodeWith (token : Str) (result : Except KeyFailure (VerificationKey κ)) : Except TokenFailure Principal :=
  match result with
  | .error (.raised .invalidToken) => .error (.authenticationError "Token validation failed".toList)
  | .error _ => .error (.authenticationError "Token authentication failed".toList)
  | .ok key =>
      match library.decode (decodeCall settings token key) with
      | .error .invalidToken => .error (.authenticationError "Token validation failed".toList)
      | .error _ => .error (.authenticationError "Token authentication failed".toList)
      | .ok claims => principalOf interpreter claims

-- What authenticate_token comes to in a coroutine; one that is cancelled
-- leaves its request without an answer.
def authenticated (token : Str) : Outcome κ → Option (Except TokenFailure Principal)
  | .disabled => some (.error (.authenticationError "Authentication is disabled".toList))
  | .resolved result => some (decodeWith settings library interpreter token result)
  | _ => none

def answerTo (route : ProtectedRoute) (scope : HttpScope) (token : Str) (outcome : Outcome κ) :
    Option (RouteAnswer interpreter) :=
  (authenticated settings library interpreter token outcome).map
    (fun principal => respondWith interpreter debug scope (serveRoute spelling route (fun _ => principal) (some token)))

theorem decode_with_authenticates (fetch : Bool → Except Failure Jwks) (token : Str) (enabled : settings.authEnabled = true) :
    decodeWith settings library interpreter token (resolveKey library settings fetch token) =
      authenticateToken interpreter library settings fetch token := by
  have disabled : ¬ settings.authEnabled = false := by simp [enabled]
  rw [authenticateToken, authenticateClaims, if_neg disabled]
  cases resolveKey library settings fetch token with
  | error failure =>
      cases failure with
      | raised cause => cases cause <;> rfl
      | missingKid => rfl
      | noMatchingKey => rfl
      | noKeyMaterial => rfl
  | ok key =>
      simp only [decodeWith]
      cases library.decode (decodeCall settings token key) with
      | ok claims => rfl
      | error failure => cases failure <;> rfl

-- Where the key of a token comes from, whichever way it is configured.
inductive KeyBacking (trace : List (TaskEvent κ)) (now : Rat) (token : Str) : VerificationKey κ → Prop where
  | jwk (header : TokenHeader) (kid : Str) (entry : κ) (read : library.unverifiedHeader token = .ok header)
      (named : header.kid = some kid) (grounds : KeyGrounds settings library trace now kid entry) : KeyBacking trace now token (.jwk entry)
  | publicKey (unlinked : settings.authJwksUrl = []) (configured : settings.authJwtPublicKey ≠ []) :
      KeyBacking trace now token (.publicKey settings.authJwtPublicKey)
  | sharedSecret (unlinked : settings.authJwksUrl = []) (keyless : settings.authJwtPublicKey = [])
      (shared : usesSharedSecret settings = true) : KeyBacking trace now token (.sharedSecret settings.authJwtSecret)

theorem started_once (task : Nat) (stage : Stage κ) (history : List (TaskEvent κ)) (purpose other : Purpose)
    (progress : Progress settings library describe task stage history) (first : .started task purpose ∈ history)
    (second : .started task other ∈ history) : purpose = other := by
  cases progress with
  | idle => cases first
  | _ =>
      simp only [List.mem_cons, List.mem_append, List.mem_map, reduceCtorEq, TaskEvent.started.injEq, and_false,
        exists_false, List.not_mem_nil, or_false, true_and] at first second
      exact first.trans second.symm

theorem entered_backed (trace : List (TaskEvent κ)) (now : Rat) (token : Str) (enabled : settings.authEnabled = true)
    (purpose : Purpose) (key : VerificationKey κ)
    (entered : enter settings library purpose = .done (.resolved (.ok key))) :
    KeyBacking settings library trace now token key := by
  by_cases linked : settings.authJwksUrl ≠ []
  · exact absurd entered (enter_unresolved settings library ⟨enabled, linked⟩ purpose key)
  · have unlinked : settings.authJwksUrl = [] := not_not.mp linked
    have disabled : ¬ settings.authEnabled = false := by simp [enabled]
    cases purpose with
    | readiness =>
        rw [enter, enterReadiness, if_neg disabled, if_neg linked] at entered
        split at entered
        · cases entered
        · split at entered <;> cases entered
    | warmUp =>
        rw [enter, enterWarmUp, if_neg (fun both => linked both.2)] at entered
        cases entered
    | authenticate other =>
        rw [enter, enterAuthenticate, if_neg disabled, if_neg linked, resolveKey, if_neg linked] at entered
        by_cases configured : settings.authJwtPublicKey ≠ []
        · rw [if_pos configured] at entered
          cases entered
          exact .publicKey unlinked configured
        · rw [if_neg configured] at entered
          by_cases shared : usesSharedSecret settings = true
          · rw [if_pos shared] at entered
            cases entered
            exact .sharedSecret unlinked (not_not.mp configured) shared
          · rw [if_neg shared] at entered
            cases entered

theorem resolved_backed (enabled : settings.authEnabled = true) (positive : 0 < settings.authJwksCacheTtlSeconds)
    (clock : Rat) (steps : List TaskStep) (state : ServiceState κ) (trace : List (TaskEvent κ))
    (ran : exec (taskStep settings library describe) (ServiceState.start clock) steps = some (state, trace))
    (input : TaskStep) (next : ServiceState κ) (events : List (TaskEvent κ))
    (stepped : taskStep settings library describe state input = some (next, events)) (task : Nat) (token : Str)
    (key : VerificationKey κ) (started : .started task (.authenticate token) ∈ trace ++ events)
    (resolved : .finished task (.resolved (.ok key)) ∈ events) :
    KeyBacking settings library (trace ++ events) input.time token key := by
  obtain ⟨own, ends⟩ := step_finished settings library describe state next input events task _ stepped resolved
  subst own
  cases ends with
  | direct purpose entered => exact entered_backed settings library _ _ token enabled purpose key entered
  | awaited stage action result flag stands awaits called ended answer =>
      obtain ⟨other, header, kid, entry, asked, read, named, same, grounds⟩ :=
        awaited_grounds settings library describe positive clock steps state next trace events input ran stage action result
          flag stands awaits called ended key answer
      have whole := exec_append _ _ _ _ _ _ _ _ ran (exec_single _ _ _ _ _ stepped)
      have holds := tasks_hold settings library describe clock _ next _ whole
      have once := started_once settings library describe input.task _ _ _ _ (holds.progress input.task)
        ((mem_own _ _ _ rfl).mp started) ((mem_own _ _ _ rfl).mp asked)
      cases once
      rw [same]
      exact .jwk header kid entry read named grounds

def Verified (token : Str) (key : VerificationKey κ) (claims : Claims) : Prop :=
  library.decode (decodeCall settings token key) = .ok claims

theorem decode_with_cases (token : Str) (result : Except KeyFailure (VerificationKey κ)) :
    ((∃ message, decodeWith settings library interpreter token result = .error (.authenticationError message)) ∧
        ∀ key claims, result = .ok key → ¬ Verified settings library token key claims) ∨
      ∃ key claims, result = .ok key ∧ Verified settings library token key claims ∧
        decodeWith settings library interpreter token result = principalOf interpreter claims := by
  cases result with
  | error failure =>
      refine .inl ⟨?_, (fun key claims same => by cases same)⟩
      cases failure with
      | raised cause => cases cause <;> exact ⟨_, rfl⟩
      | missingKid => exact ⟨_, rfl⟩
      | noMatchingKey => exact ⟨_, rfl⟩
      | noKeyMaterial => exact ⟨_, rfl⟩
  | ok key =>
      cases decoded : library.decode (decodeCall settings token key) with
      | ok claims => exact .inr ⟨key, claims, rfl, decoded, by simp only [decodeWith, decoded]⟩
      | error failure =>
          refine .inl ⟨?_, ?_⟩
          · simp only [decodeWith, decoded]
            cases failure <;> exact ⟨_, rfl⟩
          · intro other claims same verified
            cases same
            rw [Verified, decoded] at verified
            cases verified

theorem verified_principal (contract : JwtContract library interpreter) (token : Str) (key : VerificationKey κ)
    (claims : Claims) (verified : Verified settings library token key claims) :
    (∃ principal, principalOf interpreter claims = .ok principal) ∨
      UnguardedRoles interpreter (claim "roles" claims) ∧ ∃ raised, principalOf interpreter claims = .error raised ∧
        ∀ message, raised ≠ .authenticationError message := by
  obtain ⟨text, read⟩ := contract.payload _ claims verified
  have asked : "sub".toList ∈ (decodeCall settings token key).require := by
    simp only [decodeCall]
    split <;> simp
  obtain ⟨sub, found⟩ := contract.required _ claims _ verified asked
  have built := principal_of_iff interpreter claims sub (loads_within interpreter text _ read) found
  by_cases bad : UnguardedRoles interpreter (claim "roles" claims)
  · refine .inr ⟨bad, ?_⟩
    cases made : principalOf interpreter claims with
    | ok principal => exact absurd bad (built.mp ⟨principal, made⟩)
    | error raised =>
        refine ⟨raised, rfl, ?_⟩
        intro message same
        exact principal_of_no_authentication_error interpreter claims message (same ▸ made)
  · exact .inl (built.mpr bad)

theorem serve_refused (route : ProtectedRoute) (token message : Str) :
    serveRoute spelling route (fun _ => .error (.authenticationError message)) (some token) =
      .error (.http (unauthorized "Invalid bearer token")) := rfl

theorem serve_raised (route : ProtectedRoute) (token : Str) (raised : TokenFailure)
    (other : ∀ message, raised ≠ .authenticationError message) :
    serveRoute spelling route (fun _ => .error raised) (some token) = .error (.raised raised) := by
  cases raised with
  | authenticationError message => exact absurd rfl (other message)
  | keyError => rfl
  | raised failure => rfl

theorem serve_principal (route : ProtectedRoute) (token : Str) (principal : Principal) :
    serveRoute spelling route (fun _ => .ok principal) (some token) =
      if route.missing principal ≠ [] then .error (.http (forbidden route.kind (route.missing principal)))
      else .ok (route.endpoint spelling principal) := by
  have served : serveRoute spelling route (fun _ => .ok principal) (some token) =
      (route.dependency principal).bind (fun granted => .ok (route.endpoint spelling granted)) := rfl
  rw [served, dependency_cases]
  by_cases lacking : route.missing principal ≠ []
  · rw [if_pos lacking, if_pos lacking]
    rfl
  · rw [if_neg lacking, if_neg lacking]
    rfl

theorem respond_ok_cases (scope : HttpScope) (content : PyValue) :
    (∃ response : RenderedResponse interpreter, Renderable interpreter interpreter.nesting content ∧
        response.statusCode = 200 ∧ response.content = content ∧
        respondWith interpreter debug scope (.ok content) = .rendered response) ∨
      ¬ Renderable interpreter interpreter.nesting content ∧
        ∃ raised, respondWith interpreter debug scope (.ok content) = serverError interpreter debug scope raised := by
  have built := json_response_built_iff interpreter 200 content
  cases made : jsonResponse interpreter 200 content with
  | ok response =>
      obtain ⟨status, same⟩ := json_response_ok interpreter 200 content response made
      exact .inl ⟨response, built.mp ⟨response, made⟩, status, same, by simp only [respondWith, made]⟩
  | error raised =>
      refine .inr ⟨?_, .rendering raised, by simp only [respondWith, made]⟩
      intro renderable
      obtain ⟨response, other⟩ := built.mpr renderable
      rw [made] at other
      cases other

theorem server_error_status (scope : HttpScope) (raised : Unhandled) :
    (serverError interpreter debug scope raised).statusCode = 500 := by
  cases debug <;> rfl

inductive Answers (route : ProtectedRoute) (scope : HttpScope) (token : Str) (outcome : Outcome κ) :
    RouteAnswer interpreter → Prop where
  | granted (key : VerificationKey κ) (claims : Claims) (principal : Principal) (resolved : outcome = .resolved (.ok key))
      (verified : Verified settings library token key claims) (built : principalOf interpreter claims = .ok principal)
      (entitled : route.missing principal = []) (response : RenderedResponse interpreter) (status : response.statusCode = 200)
      (content : response.content = route.endpoint spelling principal)
      (renderable : Renderable interpreter interpreter.nesting (route.endpoint spelling principal)) :
      Answers route scope token outcome (.rendered response)
  | unrendered (key : VerificationKey κ) (claims : Claims) (principal : Principal)
      (resolved : outcome = .resolved (.ok key)) (verified : Verified settings library token key claims)
      (built : principalOf interpreter claims = .ok principal) (entitled : route.missing principal = [])
      (unrenderable : ¬ Renderable interpreter interpreter.nesting (route.endpoint spelling principal)) (raised : Unhandled) :
      Answers route scope token outcome (serverError interpreter debug scope raised)
  | forbidden (key : VerificationKey κ) (claims : Claims) (principal : Principal)
      (resolved : outcome = .resolved (.ok key)) (verified : Verified settings library token key claims)
      (built : principalOf interpreter claims = .ok principal) (lacking : route.missing principal ≠ []) :
      Answers route scope token outcome (.handled (httpExceptionHandler scope (forbidden route.kind (route.missing principal))))
  | refused (unverified : ∀ key claims, outcome = .resolved (.ok key) → ¬ Verified settings library token key claims) :
      Answers route scope token outcome (.handled (httpExceptionHandler scope (unauthorized "Invalid bearer token")))
  | failed (key : VerificationKey κ) (claims : Claims) (resolved : outcome = .resolved (.ok key))
      (verified : Verified settings library token key claims)
      (unguarded : UnguardedRoles interpreter (claim "roles" claims)) (raised : Unhandled) :
      Answers route scope token outcome (serverError interpreter debug scope raised)

theorem answer_cases (contract : JwtContract library interpreter) (route : ProtectedRoute) (scope : HttpScope) (token : Str)
    (outcome : Outcome κ) (answer : RouteAnswer interpreter)
    (answered : answerTo settings library interpreter debug spelling route scope token outcome = some answer) :
    Answers settings library interpreter debug spelling route scope token outcome answer := by
  obtain ⟨result, came, same⟩ := Option.map_eq_some_iff.mp answered
  subst same
  cases outcome with
  | disabled =>
      cases came
      exact .refused (fun key claims resolved => by cases resolved)
  | reported report => cases came
  | warmed done => cases came
  | cancelled => cases came
  | resolved found =>
      have decodes : decodeWith settings library interpreter token found = result := Option.some.inj came
      rcases decode_with_cases settings library interpreter token found with ⟨⟨message, failed⟩, none⟩ |
        ⟨key, claims, same, verified, made⟩
      · rw [← decodes, failed, serve_refused interpreter spelling]
        exact .refused (fun key claims resolved => none key claims (Outcome.resolved.inj resolved))
      · subst same
        rw [made] at decodes
        rcases verified_principal settings library interpreter contract token key claims verified with ⟨principal, built⟩ |
          ⟨bad, raised, failed, other⟩
        · rw [← decodes, built, serve_principal]
          by_cases lacking : route.missing principal ≠ []
          · rw [if_pos lacking]
            exact .forbidden key claims principal rfl verified built lacking
          · rw [if_neg lacking]
            have entitled := not_not.mp lacking
            rcases respond_ok_cases interpreter debug scope (route.endpoint spelling principal) with
              ⟨response, renderable, status, content, same⟩ | ⟨unrenderable, raised, same⟩
            · rw [same]
              exact .granted key claims principal rfl verified built entitled response status content renderable
            · rw [same]
              exact .unrendered key claims principal rfl verified built entitled unrenderable raised
        · rw [← decodes, failed, serve_raised interpreter spelling route token raised other]
          exact .failed key claims rfl verified bad _

def ComesTo (token : Str) (outcome : Outcome κ) (principal : Principal) : Prop :=
  ∃ key claims, outcome = .resolved (.ok key) ∧ Verified settings library token key claims ∧
    principalOf interpreter claims = .ok principal

structure Guarded (trace : List (TaskEvent κ)) (now : Rat) (route : ProtectedRoute) (scope : HttpScope) (token : Str)
    (outcome : Outcome κ) (answer : RouteAnswer interpreter) : Prop where
  statuses : answer.statusCode ∈ [200, 401, 403, 500]
  backed : ∀ key, outcome = .resolved (.ok key) → KeyBacking settings library trace now token key
  granted : answer.statusCode = 200 ↔ ∃ principal, ComesTo settings library interpreter token outcome principal ∧
    (∀ name ∈ route.required, name ∈ route.granted principal) ∧
    Renderable interpreter interpreter.nesting (route.endpoint spelling principal)
  payload : answer.statusCode = 200 → ∀ principal, ComesTo settings library interpreter token outcome principal →
    ∃ response, answer = .rendered response ∧ response.content = route.endpoint spelling principal
  forbidden : answer.statusCode = 403 ↔ ∃ principal, ComesTo settings library interpreter token outcome principal ∧
    ∃ name ∈ route.required, name ∉ route.granted principal
  refused : answer.statusCode = 401 → answer = .handled (httpExceptionHandler scope (unauthorized "Invalid bearer token"))
  failed : answer.statusCode = 500 →
    (debug = false → answer = .handled (unhandledExceptionResponse scope)) ∧
      ((∃ key claims, outcome = .resolved (.ok key) ∧ Verified settings library token key claims ∧
          UnguardedRoles interpreter (claim "roles" claims)) ∨
        ∃ principal, ComesTo settings library interpreter token outcome principal ∧
          (∀ name ∈ route.required, name ∈ route.granted principal) ∧
          ¬ Renderable interpreter interpreter.nesting (route.endpoint spelling principal))

theorem comes_to_once (token : Str) (outcome : Outcome κ) (key : VerificationKey κ) (claims : Claims)
    (resolved : outcome = .resolved (.ok key)) (verified : Verified settings library token key claims) (principal : Principal)
    (comes : ComesTo settings library interpreter token outcome principal) : principalOf interpreter claims = .ok principal := by
  obtain ⟨other, payload, same, decoded, built⟩ := comes
  rw [resolved] at same
  cases same
  have one : claims = payload := Except.ok.inj (verified.symm.trans decoded)
  rw [one]
  exact built

theorem missing_nil_iff (route : ProtectedRoute) (principal : Principal) :
    route.missing principal = [] ↔ ∀ name ∈ route.required, name ∈ route.granted principal := by
  simp [ProtectedRoute.missing, List.filter_eq_nil_iff]

theorem server_error_quiet (scope : HttpScope) (raised : Unhandled) (off : debug = false) :
    serverError interpreter debug scope raised = .handled (unhandledExceptionResponse scope) := by
  rw [serverError, off]
  rfl

theorem answers_guarded (trace : List (TaskEvent κ)) (now : Rat) (route : ProtectedRoute) (scope : HttpScope) (token : Str)
    (outcome : Outcome κ) (answer : RouteAnswer interpreter)
    (answers : Answers settings library interpreter debug spelling route scope token outcome answer)
    (backed : ∀ key, outcome = .resolved (.ok key) → KeyBacking settings library trace now token key) :
    Guarded settings library interpreter debug spelling trace now route scope token outcome answer := by
  have once (key : VerificationKey κ) (claims : Claims) (principal other : Principal)
      (resolved : outcome = .resolved (.ok key)) (verified : Verified settings library token key claims)
      (built : principalOf interpreter claims = .ok principal)
      (comes : ComesTo settings library interpreter token outcome other) : principal = other :=
    Except.ok.inj (built.symm.trans (comes_to_once settings library interpreter token outcome key claims resolved verified
      other comes))
  have allowed (key : VerificationKey κ) (claims : Claims) (principal : Principal) (resolved : outcome = .resolved (.ok key))
      (verified : Verified settings library token key claims) (built : principalOf interpreter claims = .ok principal)
      (entitled : route.missing principal = []) :
      ¬ ∃ other, ComesTo settings library interpreter token outcome other ∧
        ∃ name ∈ route.required, name ∉ route.granted other := by
    rintro ⟨other, comes, name, asked, lacking⟩
    have same := once key claims principal other resolved verified built comes
    exact absurd ((missing_nil_iff route other).mp (same ▸ entitled) name asked) lacking
  cases answers with
  | granted key claims principal resolved verified built entitled response status content renderable =>
      have ok : (RouteAnswer.rendered response).statusCode = 200 := status
      refine ⟨by simp [ok], backed, ?_, ?_, ?_, ?_, ?_⟩
      · exact ⟨fun _ => ⟨principal, ⟨key, claims, resolved, verified, built⟩, (missing_nil_iff route principal).mp entitled,
          renderable⟩, fun _ => ok⟩
      · intro _ other comes
        rw [← once key claims principal other resolved verified built comes]
        exact ⟨response, rfl, content⟩
      · exact iff_of_false (by simp [ok]) (allowed key claims principal resolved verified built entitled)
      · simp [ok]
      · simp [ok]
  | unrendered key claims principal resolved verified built entitled unrenderable raised =>
      have failed := server_error_status interpreter debug scope raised
      have comesHere : ComesTo settings library interpreter token outcome principal := ⟨key, claims, resolved, verified, built⟩
      refine ⟨by simp [failed], backed, ?_, by simp [failed], ?_, by simp [failed], ?_⟩
      · refine ⟨by simp [failed], ?_⟩
        rintro ⟨other, comes, _, renderable⟩
        exact absurd (once key claims principal other resolved verified built comes ▸ renderable) unrenderable
      · exact iff_of_false (by simp [failed]) (allowed key claims principal resolved verified built entitled)
      · exact fun _ => ⟨server_error_quiet interpreter debug scope raised,
          .inr ⟨principal, comesHere, (missing_nil_iff route principal).mp entitled, unrenderable⟩⟩
  | forbidden key claims principal resolved verified built lacking =>
      have status : (.handled (httpExceptionHandler scope (Api.forbidden route.kind (route.missing principal))) :
          RouteAnswer interpreter).statusCode = 403 := rfl
      refine ⟨by simp [status], backed, ?_, by simp [status], ?_, by simp [status], by simp [status]⟩
      · refine ⟨by simp [status], ?_⟩
        rintro ⟨other, comes, entitled, _⟩
        have same := once key claims principal other resolved verified built comes
        exact absurd ((missing_nil_iff route principal).mpr (same ▸ entitled)) lacking
      · refine ⟨fun _ => ⟨principal, ⟨key, claims, resolved, verified, built⟩, ?_⟩, fun _ => status⟩
        by_contra entitled
        refine lacking ((missing_nil_iff route principal).mpr ?_)
        intro name asked
        by_contra absent
        exact entitled ⟨name, asked, absent⟩
  | refused unverified =>
      have status : (.handled (httpExceptionHandler scope (unauthorized "Invalid bearer token")) :
          RouteAnswer interpreter).statusCode = 401 := rfl
      have unbuilt (principal : Principal) : ¬ ComesTo settings library interpreter token outcome principal := by
        rintro ⟨key, claims, resolved, verified, _⟩
        exact unverified key claims resolved verified
      refine ⟨by simp [status], backed, ?_, by simp [status], ?_, fun _ => rfl, by simp [status]⟩
      · exact iff_of_false (by simp [status]) (fun ⟨principal, comes, _⟩ => unbuilt principal comes)
      · exact iff_of_false (by simp [status]) (fun ⟨principal, comes, _⟩ => unbuilt principal comes)
  | failed key claims resolved verified unguarded raised =>
      have failed := server_error_status interpreter debug scope raised
      have unbuilt (principal : Principal) : ¬ ComesTo settings library interpreter token outcome principal := by
        intro comes
        have built := comes_to_once settings library interpreter token outcome key claims resolved verified principal comes
        obtain ⟨_, _, _, roles⟩ := principal_of_ok interpreter claims principal built
        obtain ⟨raised, raises⟩ := unguarded_roles_raise interpreter _ unguarded
        rw [raises] at roles
        cases roles
      refine ⟨by simp [failed], backed, ?_, by simp [failed], ?_, by simp [failed], ?_⟩
      · exact iff_of_false (by simp [failed]) (fun ⟨principal, comes, _⟩ => unbuilt principal comes)
      · exact iff_of_false (by simp [failed]) (fun ⟨principal, comes, _⟩ => unbuilt principal comes)
      · exact fun _ => ⟨server_error_quiet interpreter debug scope raised,
          .inl ⟨key, claims, resolved, verified, unguarded⟩⟩

theorem protected_routes_guarded (enabled : settings.authEnabled = true) (positive : 0 < settings.authJwksCacheTtlSeconds)
    (contract : JwtContract library interpreter) (clock : Rat) (steps : List TaskStep) (state : ServiceState κ)
    (trace : List (TaskEvent κ))
    (ran : exec (taskStep settings library describe) (ServiceState.start clock) steps = some (state, trace))
    (input : TaskStep) (next : ServiceState κ) (events : List (TaskEvent κ))
    (stepped : taskStep settings library describe state input = some (next, events)) (task : Nat) (token : Str)
    (started : .started task (.authenticate token) ∈ trace ++ events) (outcome : Outcome κ)
    (finished : .finished task outcome ∈ events) (route : ProtectedRoute) (scope : HttpScope)
    (answer : RouteAnswer interpreter)
    (answered : answerTo settings library interpreter debug spelling route scope token outcome = some answer) :
    Guarded settings library interpreter debug spelling (trace ++ events) input.time route scope token outcome answer := by
  have answers := answer_cases settings library interpreter debug spelling contract route scope token outcome answer answered
  refine answers_guarded settings library interpreter debug spelling _ _ route scope token outcome answer answers ?_
  intro key resolved
  rw [resolved] at finished
  exact resolved_backed settings library describe enabled positive clock steps state trace ran input next events stepped task
    token key started finished

end Service

def readerSettings : Settings := { jwksSettings with authRequireExp := false }

def readerPayload : List (Str × Str) :=
  [("sub".toList, "reader".toList), ("iss".toList, "issuer".toList), ("aud".toList, "api".toList),
    ("scope".toList, "reports:read".toList)]

def readerClaims : Claims := readerPayload.map (fun member => (member.1, .str member.2))

def readerLibrary : JwtLibrary Unit where
  unverifiedHeader := fun _ => .ok ⟨some "k1".toList⟩
  fromDict := fun _ => .ok ()
  decode := fun call =>
    if call.token = "token".toList ∧ call.require.all (fun name => (Json.member name readerClaims).isSome) = true
    then .ok readerClaims else .error .invalidToken

theorem reader_contract : JwtContract readerLibrary cpython := by
  constructor
  · intro call claims name decoded asked
    simp only [readerLibrary] at decoded
    split at decoded
    next checked =>
      cases decoded
      exact Option.isSome_iff_exists.mp (List.all_eq_true.mp checked.2 name asked)
    next => cases decoded
  · intro call claims decoded
    simp only [readerLibrary] at decoded
    split at decoded
    next checked =>
      cases decoded
      exact ⟨_, loads_dumps_dict cpython ⟨true, false⟩ readerPayload⟩
    next => cases decoded

theorem reader_verified : Verified readerSettings readerLibrary "token".toList (.jwk ()) readerClaims := by
  have asked : (["sub".toList].all (fun name => (Json.member name readerClaims).isSome)) = true := by
    simp [readerClaims, readerPayload, Json.member]
  rw [Verified]
  simp only [readerLibrary]
  rw [if_pos]
  exact ⟨rfl, asked⟩

def reader : Principal where
  subject := "reader".toList
  issuer := some "issuer".toList
  audience := ["api".toList]
  scopes := ["reports:read".toList]
  roles := []
  claims := readerClaims

theorem reader_built : principalOf cpython readerClaims = .ok reader := by
  have sub : Json.member "sub".toList readerClaims = some (.str "reader".toList) := by
    simp [readerClaims, readerPayload, Json.member]
  have issuer : claim "iss" readerClaims = .str "issuer".toList := by
    simp [claim, readerClaims, readerPayload, Json.member]
  have audience : claim "aud" readerClaims = .str "api".toList := by
    simp [claim, readerClaims, readerPayload, Json.member]
  have scope : claim "scope" readerClaims = .str "reports:read".toList := by
    simp [claim, readerClaims, readerPayload, Json.member]
  have roles : claim "roles" readerClaims = .null := by
    simp [claim, readerClaims, readerPayload, Json.member]
  have scopes : normalizeScopes cpython (scopeClaim readerClaims) = .ok ["reports:read".toList] := by
    rw [scopeClaim, scope]
    rfl
  rw [principalOf, sub]
  simp [issuer, audience, scopes, roles, str, claimAsOptionalStr, normalizeAudience, normalizeRoles, bind, Except.bind,
    Except.mapError, Except.map, reader]

def reportsScope : HttpScope := { type := .http, path := some "/api/v1/reports".toList }

def questionSpelling : Spelling cpython where
  point := fun c => if c = '?' then ⟨0xD800, by decide⟩ else point c
  lone := by
    intro unit _
    rfl

theorem reader_told : ∀ text ∈ ProtectedRoute.reports.told reader, Encodable (questionSpelling.text text) := by
  intro text told p member
  simp only [ProtectedRoute.told, reader, List.mem_singleton] at told
  rw [told] at member
  obtain ⟨c, inside, rfl⟩ := List.mem_map.mp member
  have plain : c ≠ '?' := by
    intro same
    simp [same] at inside
  simp only [questionSpelling, if_neg plain]
  exact point_encodable c

theorem protected_routes_guarded_reader :
    ∃ answer, answerTo readerSettings readerLibrary cpython false questionSpelling .reports reportsScope "token".toList
        (.resolved (.ok (.jwk ()))) = some answer ∧ answer.statusCode = 200 ∧
      KeyBacking readerSettings readerLibrary tokenTrace 2 "token".toList (.jwk ()) := by
  obtain ⟨state, next, waits, answered⟩ := token_answered readerSettings ⟨rfl, by decide⟩ readerLibrary rfl rfl
  have guarded := protected_routes_guarded readerSettings readerLibrary (fun _ => []) cpython false questionSpelling rfl
    (by decide) reader_contract 0 tokenWaiting state _ waits tokenAnswered next _ answered 0 "token".toList
    (by simp [tokenTrace]) (.resolved (.ok (.jwk ()))) (by simp [tokenTrace]) .reports reportsScope _ rfl
  rw [List.take_append_drop] at guarded
  have comes : ComesTo readerSettings readerLibrary cpython "token".toList (.resolved (.ok (.jwk ()))) reader :=
    ⟨_, _, rfl, reader_verified, reader_built⟩
  have entitled : ∀ name ∈ ProtectedRoute.reports.required, name ∈ ProtectedRoute.reports.granted reader := by
    simp [ProtectedRoute.required, ProtectedRoute.granted, reader]
  have renderable := (endpoint_renderable_iff questionSpelling (by decide) .reports reader).mpr reader_told
  exact ⟨_, rfl, guarded.granted.mpr ⟨reader, comes, entitled, renderable⟩, guarded.backed _ rfl⟩

end Chassis.Api
