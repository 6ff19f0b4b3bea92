import Chassis.RoutePattern

set_option autoImplicit false

namespace Chassis.Routing

-- The settings that decide on the routes, as validation accepts them.
structure Settings where
  docsEnabled : Bool
  redocEnabled : Bool
  openapiEnabled : Bool
  metricsEnabled : Bool
  infoEndpointEnabled : Bool
  endpointsListingEnabled : Bool
  healthCheckPath : Str
  readinessCheckPath : Str
  healthRooted : healthCheckPath.head? = some '/'
  readinessRooted : readinessCheckPath.head? = some '/'
  distinct : healthCheckPath ≠ readinessCheckPath

inductive Endpoint where
  | openapi
  | swaggerUi
  | swaggerUiRedirect
  | redoc
  | handleMetrics
  | root
  | healthCheck
  | readinessCheck
  | favicon
  | appInfo
  | listEndpoints
  | getMe
  | getReports
  | getAdminDashboard
  | getCachedTime
deriving DecidableEq

structure Route where
  pattern : List Piece
  endpoint : Endpoint

def Route.matches (route : Route) (path : Str) : Bool := pathMatches route.pattern path

def listed (enabled : Bool) (path : String) (endpoint : Endpoint) : List (Str × Endpoint) :=
  if enabled then [(path.toList, endpoint)] else []

-- FastAPI.setup, then setup_metrics, then the first route of create_health_router.
def registeredBefore (settings : Settings) : List (Str × Endpoint) :=
  listed settings.openapiEnabled "/openapi.json" .openapi ++
  listed (settings.openapiEnabled && settings.docsEnabled) "/docs" .swaggerUi ++
  listed (settings.openapiEnabled && settings.docsEnabled) "/docs/oauth2-redirect" .swaggerUiRedirect ++
  listed (settings.openapiEnabled && settings.redocEnabled) "/redoc" .redoc ++
  listed settings.metricsEnabled "/metrics" .handleMetrics ++
  listed true "/" .root

-- The rest of create_health_router, and api_router.
def registeredAfter (settings : Settings) : List (Str × Endpoint) :=
  listed true "/favicon.ico" .favicon ++
  listed settings.infoEndpointEnabled "/info" .appInfo ++
  listed settings.endpointsListingEnabled "/endpoints" .listEndpoints ++
  listed true "/api/v1/me" .getMe ++
  listed true "/api/v1/reports" .getReports ++
  listed true "/api/v1/admin" .getAdminDashboard ++
  listed true "/api/v1/cached-time" .getCachedTime

def registered (settings : Settings) : List (Str × Endpoint) :=
  registeredBefore settings ++
  [(settings.healthCheckPath, .healthCheck), (settings.readinessCheckPath, .readinessCheck)] ++
  registeredAfter settings

def compileRoute (entry : Str × Endpoint) : Option Route :=
  (compilePath entry.1).map (fun pattern => ⟨pattern, entry.2⟩)

-- All of them answer GET; none where a path does not compile.
def buildRoutes (settings : Settings) : Option (List Route) := (registered settings).mapM compileRoute

def answeredBy (routes : List Route) (path : Str) : Option Endpoint :=
  (routes.find? (fun route => route.matches path)).map Route.endpoint

-- None of the fixed paths registered before, with or without a final newline.
def Free (settings : Settings) (path : Str) : Prop :=
  ∀ entry ∈ registeredBefore settings, path ≠ entry.1 ∧ path ≠ entry.1 ++ ['\n']

def Takes (own path : Str) : Prop := ∃ pattern, compilePath own = some pattern ∧ pathMatches pattern path = true

structure Unshadowed (settings : Settings) : Prop where
  healthFree : Free settings settings.healthCheckPath
  readinessFree : Free settings settings.readinessCheckPath
  healthOwn : Takes settings.healthCheckPath settings.healthCheckPath
  readinessOwn : Takes settings.readinessCheckPath settings.readinessCheckPath
  apart : ¬ Takes settings.healthCheckPath settings.readinessCheckPath

def literalRoute (entry : Str × Endpoint) : Route := ⟨entry.1.map .char, entry.2⟩

theorem listed_mem (enabled : Bool) (path : String) (endpoint : Endpoint) (entry : Str × Endpoint)
    (member : entry ∈ listed enabled path endpoint) : entry = (path.toList, endpoint) := by
  rw [listed] at member
  split at member
  · exact List.mem_singleton.mp member
  · cases member

theorem before_entries (settings : Settings) :
    ∀ entry ∈ registeredBefore settings,
      '\x7b' ∉ entry.1 ∧ entry.2 ≠ .healthCheck ∧ entry.2 ≠ .readinessCheck := by
  intro entry member
  simp only [registeredBefore, List.mem_append] at member
  rcases member with ((((found | found) | found) | found) | found) | found <;>
    rw [listed_mem _ _ _ _ found] <;> decide

theorem after_entries (settings : Settings) :
    ∀ entry ∈ registeredAfter settings,
      '\x7b' ∉ entry.1 ∧ entry.2 ≠ .healthCheck ∧ entry.2 ≠ .readinessCheck := by
  intro entry member
  simp only [registeredAfter, List.mem_append] at member
  rcases member with (((((found | found) | found) | found) | found) | found) | found <;>
    rw [listed_mem _ _ _ _ found] <;> decide

theorem compile_literals (entries : List (Str × Endpoint)) (braceFree : ∀ entry ∈ entries, '\x7b' ∉ entry.1) :
    entries.mapM compileRoute = some (entries.map literalRoute) := by
  induction entries with
  | nil => rfl
  | cons entry rest ih =>
      have first : compileRoute entry = some (literalRoute entry) := by
        rw [compileRoute, compile_literal entry.1 (braceFree entry (by simp))]
        rfl
      rw [List.mapM_cons, first, ih (fun other member => braceFree other (by simp [member]))]
      rfl

theorem built_routes (settings : Settings) (routes : List Route) (built : buildRoutes settings = some routes) :
    ∃ health readiness, compilePath settings.healthCheckPath = some health ∧
      compilePath settings.readinessCheckPath = some readiness ∧
      routes = (registeredBefore settings).map literalRoute ++
        (⟨health, .healthCheck⟩ :: ⟨readiness, .readinessCheck⟩ :: (registeredAfter settings).map literalRoute) := by
  have before := compile_literals (registeredBefore settings) (fun entry member => (before_entries settings entry member).1)
  have after := compile_literals (registeredAfter settings) (fun entry member => (after_entries settings entry member).1)
  rw [buildRoutes, registered, List.mapM_append, List.mapM_append, before, after] at built
  cases health : compilePath settings.healthCheckPath with
  | none => simp [compileRoute, health] at built
  | some healthPattern =>
      cases readiness : compilePath settings.readinessCheckPath with
      | none => simp [compileRoute, health, readiness] at built
      | some readinessPattern =>
          refine ⟨healthPattern, readinessPattern, rfl, rfl, ?_⟩
          simp [compileRoute, health, readiness] at built
          exact built.symm

theorem free_iff (settings : Settings) (path : Str) :
    ((registeredBefore settings).map literalRoute).find? (fun route => route.matches path) = none ↔
      Free settings path := by
  rw [List.find?_eq_none]
  constructor
  · intro unmatched entry member
    have missed := unmatched (literalRoute entry) (List.mem_map_of_mem member)
    rw [Route.matches, literalRoute, literal_path_matches_iff] at missed
    exact not_or.mp missed
  · intro free route member
    obtain ⟨entry, found, rfl⟩ := List.mem_map.mp member
    rw [Route.matches, literalRoute, literal_path_matches_iff]
    exact not_or.mpr (free entry found)

theorem endpoint_of_literal (entries : List (Str × Endpoint)) (path : Str) (route : Route)
    (found : (entries.map literalRoute).find? (fun route => route.matches path) = some route) :
    ∃ entry ∈ entries, route.endpoint = entry.2 := by
  obtain ⟨entry, member, rfl⟩ := List.mem_map.mp (List.mem_of_find?_eq_some found)
  exact ⟨entry, member, rfl⟩

section Answer

variable (settings : Settings) (routes : List Route) (health readiness : List Piece) (path : Str)
  (shape : routes = (registeredBefore settings).map literalRoute ++
    (⟨health, .healthCheck⟩ :: ⟨readiness, .readinessCheck⟩ :: (registeredAfter settings).map literalRoute))

include shape

theorem answered_cases :
    (¬ Free settings path ∧ answeredBy routes path ≠ some .healthCheck ∧ answeredBy routes path ≠ some .readinessCheck) ∨
      (Free settings path ∧ pathMatches health path = true ∧ answeredBy routes path = some .healthCheck) ∨
      (Free settings path ∧ pathMatches health path = false ∧ pathMatches readiness path = true ∧
        answeredBy routes path = some .readinessCheck) ∨
      (pathMatches health path = false ∧ pathMatches readiness path = false ∧
        answeredBy routes path ≠ some .healthCheck ∧ answeredBy routes path ≠ some .readinessCheck) := by
  have answer : answeredBy routes path =
      ((((registeredBefore settings).map literalRoute).find? (fun route => route.matches path)).or
        ((⟨health, .healthCheck⟩ :: ⟨readiness, .readinessCheck⟩ :: (registeredAfter settings).map literalRoute).find?
          (fun route => route.matches path))).map Route.endpoint := by
    rw [answeredBy, shape, List.find?_append]
  cases early : ((registeredBefore settings).map literalRoute).find? (fun route => route.matches path) with
  | some route =>
      obtain ⟨entry, member, same⟩ := endpoint_of_literal _ path route early
      obtain ⟨_, notHealth, notReadiness⟩ := before_entries settings entry member
      have taken : ¬ Free settings path := by
        rw [← free_iff, early]
        simp
      rw [early] at answer
      refine .inl ⟨taken, ?_, ?_⟩ <;> rw [answer] <;> simpa [same]
  | none =>
      have free := (free_iff settings path).mp early
      rw [early, Option.none_or] at answer
      cases first : pathMatches health path with
      | true =>
          refine .inr (.inl ⟨free, rfl, ?_⟩)
          rw [answer, List.find?_cons_of_pos (by exact first)]
          rfl
      | false =>
          rw [List.find?_cons_of_neg (by simp [Route.matches, first])] at answer
          cases second : pathMatches readiness path with
          | true =>
              refine .inr (.inr (.inl ⟨free, rfl, rfl, ?_⟩))
              rw [answer, List.find?_cons_of_pos (by exact second)]
              rfl
          | false =>
              rw [List.find?_cons_of_neg (by simp [Route.matches, second])] at answer
              refine .inr (.inr (.inr ⟨rfl, rfl, ?_⟩))
              cases late : ((registeredAfter settings).map literalRoute).find? (fun route => route.matches path) with
              | none =>
                  rw [answer, late]
                  simp
              | some route =>
                  obtain ⟨entry, member, same⟩ := endpoint_of_literal _ path route late
                  obtain ⟨_, notHealth, notReadiness⟩ := after_entries settings entry member
                  rw [answer, late]
                  simp [same, notHealth, notReadiness]

theorem health_answers_iff :
    answeredBy routes path = some .healthCheck ↔ Free settings path ∧ pathMatches health path = true := by
  rcases answered_cases settings routes health readiness path shape with
    ⟨taken, other, _⟩ | ⟨free, first, answer⟩ | ⟨_, first, _, answer⟩ | ⟨first, _, other, _⟩
  · exact ⟨fun answer => absurd answer other, fun own => absurd own.1 taken⟩
  · exact ⟨fun _ => ⟨free, first⟩, fun _ => answer⟩
  · simp [answer, first]
  · simp [other, first]

theorem readiness_answers_iff :
    answeredBy routes path = some .readinessCheck ↔
      Free settings path ∧ pathMatches health path = false ∧ pathMatches readiness path = true := by
  rcases answered_cases settings routes health readiness path shape with
    ⟨taken, _, other⟩ | ⟨_, first, answer⟩ | ⟨free, first, second, answer⟩ | ⟨_, second, _, other⟩
  · exact ⟨fun answer => absurd answer other, fun own => absurd own.1 taken⟩
  · simp [answer, first]
  · exact ⟨fun _ => ⟨free, first, second⟩, fun _ => answer⟩
  · simp [other, second]

end Answer

theorem takes_iff (own path : Str) (pattern : List Piece) (compiled : compilePath own = some pattern) :
    Takes own path ↔ pathMatches pattern path = true := by
  constructor
  · rintro ⟨other, same, matched⟩
    rw [compiled] at same
    cases same
    exact matched
  · intro matched
    exact ⟨pattern, compiled, matched⟩

theorem probes_reach_their_handlers_iff (settings : Settings) (routes : List Route)
    (built : buildRoutes settings = some routes) :
    (answeredBy routes settings.readinessCheckPath = some .readinessCheck ∧
        answeredBy routes settings.healthCheckPath = some .healthCheck) ↔
      Unshadowed settings := by
  obtain ⟨health, readiness, healthCompiled, readinessCompiled, shape⟩ := built_routes settings routes built
  rw [health_answers_iff settings routes health readiness _ shape,
    readiness_answers_iff settings routes health readiness _ shape]
  have healthTakes (path : Str) := takes_iff settings.healthCheckPath path health healthCompiled
  have readinessTakes := takes_iff settings.readinessCheckPath settings.readinessCheckPath readiness readinessCompiled
  constructor
  · rintro ⟨⟨readinessFree, other, own⟩, healthFree, first⟩
    refine ⟨healthFree, readinessFree, (healthTakes _).mpr first, readinessTakes.mpr own, ?_⟩
    rw [healthTakes, other]
    decide
  · intro unshadowed
    refine ⟨⟨unshadowed.readinessFree, ?_, readinessTakes.mp unshadowed.readinessOwn⟩, unshadowed.healthFree,
      (healthTakes _).mp unshadowed.healthOwn⟩
    have missed := unshadowed.apart
    rw [healthTakes] at missed
    exact Bool.eq_false_iff.mpr missed

def allEnabled (health readiness : Str) (healthRooted : health.head? = some '/') (readinessRooted : readiness.head? = some '/')
    (distinct : health ≠ readiness) : Settings :=
  ⟨true, true, true, true, true, true, health, readiness, healthRooted, readinessRooted, distinct⟩

def defaultPaths : Settings := allEnabled "/healthcheck".toList "/ready".toList (by decide) (by decide) (by decide)

theorem probes_reach_their_handlers_iff_default :
    ∃ routes, buildRoutes defaultPaths = some routes ∧
      answeredBy routes defaultPaths.readinessCheckPath = some .readinessCheck ∧
      answeredBy routes defaultPaths.healthCheckPath = some .healthCheck := by
  have compiles : (buildRoutes defaultPaths).isSome = true := by decide
  obtain ⟨routes, built⟩ := Option.isSome_iff_exists.mp compiles
  refine ⟨routes, built, (probes_reach_their_handlers_iff defaultPaths routes built).mpr ?_⟩
  refine ⟨by unfold Free; decide, by unfold Free; decide, ⟨_, rfl, by decide⟩, ⟨_, rfl, by decide⟩, ?_⟩
  rintro ⟨pattern, compiled, matched⟩
  cases compiled
  exact absurd matched (by decide)

def parameterPaths : Settings := allEnabled "/\x7bprobe\x7d".toList "/ready".toList (by decide) (by decide) (by decide)

theorem readiness_shadowed_by_parameter :
    ¬ ∀ (settings : Settings) (routes : List Route), buildRoutes settings = some routes →
      answeredBy routes settings.readinessCheckPath = some .readinessCheck ∧
        answeredBy routes settings.healthCheckPath = some .healthCheck := by
  intro claim
  have shadowed : (buildRoutes parameterPaths).map (fun routes => answeredBy routes parameterPaths.readinessCheckPath) =
      some (some .healthCheck) := by decide
  obtain ⟨routes, built, answer⟩ := Option.map_eq_some_iff.mp shadowed
  have right := (claim parameterPaths routes built).1
  rw [answer] at right
  cases right

end Chassis.Routing
