import Chassis.Response
import Chassis.SecurityHeaders

set_option autoImplicit false

namespace Chassis.Security

open Asgi Headers Text

-- What an application does with a request: the messages it tries to send, in
-- order, and the exception it ends with, if any.
structure Reaction where
  sent : List Message
  raised : Option Raised

-- The application learns which of its messages make send raise.
abbrev Application := HttpScope → (Message → Bool) → Reaction
abbrev Middleware := Application → Application

-- A middleware that hands on what is sent through a wrapper; the wrapper
-- raises where it has no value.
def wrapSend (wrapper : HttpScope → Message → Option Message) (app : Application) : Application := fun scope refuses =>
  let refusal (message : Message) : Bool :=
    match wrapper scope message with
    | none => true
    | some wrapped => refuses wrapped
  let inner := app scope refusal
  ⟨inner.sent.filterMap (wrapper scope), inner.raised⟩

-- A response that a layer sends itself, up to the message at which send raises.
def respond (refuses : Message → Bool) : List Message → Reaction
  | [] => ⟨[], none⟩
  | message :: rest =>
      if refuses message then ⟨[message], some (.other "UnicodeEncodeError".toList)⟩
      else ⟨message :: (respond refuses rest).sent, (respond refuses rest).raised⟩

def onlyHttp (layer : Middleware) : Middleware := fun app scope refuses =>
  if scope.type ≠ .http then app scope refuses else layer app scope refuses

def securityHeaders (middleware : SecurityHeadersMiddleware) : Middleware :=
  onlyHttp (wrapSend (sendWrapper middleware))

-- The layers that come with the framework, set up from the settings.
structure Framework where
  hostAnswer : HttpScope → Option (List Message)
  preflight : HttpScope → Option (List Message)
  annotate : HttpScope → Option (RawHeaders → RawHeaders)
  debugAnswer : HttpScope → Raised → List Message
  writer : ResponseWriter

def annotateStart (framework : Framework) (scope : HttpScope) : Message → Option Message
  | .responseStart status headers => (framework.annotate scope).map (fun change => .responseStart status (change headers))
  | message => some message

def trustedHost (framework : Framework) : Middleware := onlyHttp (fun app scope refuses =>
  match framework.hostAnswer scope with
  | none => app scope refuses
  | some answer => respond refuses answer)

def cors (framework : Framework) : Middleware := onlyHttp (fun app scope refuses =>
  match framework.preflight scope with
  | none => wrapSend (annotateStart framework) app scope refuses
  | some answer => respond refuses answer)

-- unhandled_exception_handler
def unhandledExceptionResponse (scope : HttpScope) : JsonResponse :=
  { statusCode := 500
    content := .object
      [("error".toList, Json.text "internal_error"), ("detail".toList, Json.text "An unexpected error occurred"),
        ("path".toList, .str (getSanitizedScopePath scope.toScope))] }

structure Settings where
  debug : Bool
  rateLimitEnabled : Bool
  securityHeadersEnabled : Bool
  security : SecurityHeadersMiddleware

def errorAnswer (framework : Framework) (settings : Settings) (scope : HttpScope) (error : Raised) : List Message :=
  if settings.debug then framework.debugAnswer scope error
  else framework.writer.messages (unhandledExceptionResponse scope)

-- ServerErrorMiddleware: an Exception gets an answer unless a response has
-- started, and is raised again.
def serverError (framework : Framework) (settings : Settings) : Middleware := onlyHttp (fun app scope refuses =>
  let inner := app scope refuses
  match inner.raised with
  | none => inner
  | some error =>
      if error = .cancelled ∨ inner.sent.any isStart = true then inner
      else ⟨inner.sent ++ (respond refuses (errorAnswer framework settings scope error)).sent, some error⟩)

-- The layers of the builder that may do anything within their place.
structure Layers where
  timeout : Middleware
  bodySizeLimit : Middleware
  rateLimit : Middleware
  requestId : Middleware
  requestLogging : Middleware

-- FastAPIAppBuilder.setup_middleware, in the order of registration.
def setupMiddleware (framework : Framework) (settings : Settings) (layers : Layers) : List Middleware :=
  [layers.timeout, layers.bodySizeLimit] ++
  (if settings.rateLimitEnabled then [layers.rateLimit] else []) ++
  [layers.requestId, layers.requestLogging] ++
  (if settings.securityHeadersEnabled then [securityHeaders settings.security] else []) ++
  [trustedHost framework, cors framework]

-- Middleware added later is outer, and ServerErrorMiddleware is outside all.
def application (framework : Framework) (settings : Settings) (layers : Layers) (routes : Application) : Application :=
  serverError framework settings
    ((setupMiddleware framework settings layers).foldl (fun app layer => layer app) routes)

def securityNames : List Bytes :=
  ["X-Content-Type-Options", "X-Frame-Options", "Referrer-Policy", "Permissions-Policy", "Cache-Control"].map
    (fun name => lower (ascii name))

def Bare (answer : List Message) : Prop :=
  ∃ status headers rest, answer = .responseStart status headers :: rest ∧ ∀ line ∈ headers, line.1 ∉ securityNames

-- What Starlette's layers and its JSON response are documented to do.
structure Documented (framework : Framework) : Prop where
  hostAnswer : ∀ scope answer, framework.hostAnswer scope = some answer → Bare answer
  preflight : ∀ scope answer, framework.preflight scope = some answer → Bare answer
  debugAnswer : ∀ scope error, Bare (framework.debugAnswer scope error)
  writer : ∀ response, response.headers = [] → Bare (framework.writer.messages response)
  annotate : ∀ scope change, framework.annotate scope = some change → ∀ headers line, line.1 ∈ securityNames →
    (line ∈ change headers ↔ line ∈ headers)

def innerLayers (settings : Settings) (layers : Layers) (routes : Application) : Application :=
  ([layers.timeout, layers.bodySizeLimit] ++ (if settings.rateLimitEnabled then [layers.rateLimit] else []) ++
    [layers.requestId, layers.requestLogging]).foldl (fun app layer => layer app) routes

def Passable (framework : Framework) (settings : Settings) (scope : HttpScope) : Prop :=
  Encodable settings.security ∧ (framework.annotate scope).isSome

instance (framework : Framework) (settings : Settings) (scope : HttpScope) :
    Decidable (Passable framework settings scope) := inferInstanceAs (Decidable (_ ∧ _))

def refused (framework : Framework) (settings : Settings) (scope : HttpScope) (message : Message) : Bool :=
  isStart message && !decide (Passable framework settings scope)

section Stack

variable (framework : Framework) (settings : Settings) (scope : HttpScope)

theorem respond_accepted (answer : List Message) : respond (fun _ => false) answer = ⟨answer, none⟩ := by
  induction answer with
  | nil => rfl
  | cons message rest ih => simp [respond, ih]

theorem bare_uncarried (middleware : SecurityHeadersMiddleware) (answer : List Message) (bare : Bare answer) :
    ∃ status headers, .responseStart status headers ∈ answer ∧ ¬ Carries middleware headers := by
  obtain ⟨status, headers, rest, rfl, missing⟩ := bare
  refine ⟨status, headers, by simp, ?_⟩
  intro carries
  obtain ⟨encoded, _, member⟩ := carries ("X-Content-Type-Options", "nosniff".toList) (by simp [promised])
  exact missing _ member (by simp [securityNames])

theorem error_answer_bare (documented : Documented framework) (error : Raised) :
    Bare (errorAnswer framework settings scope error) := by
  unfold errorAnswer
  split
  · exact documented.debugAnswer scope error
  · exact documented.writer _ rfl

theorem server_error_cases (app : Application) (http : scope.type = .http) :
    let inner := app scope (fun _ => false)
    let result := serverError framework settings app scope (fun _ => false)
    ((∀ error, inner.raised = some error → error ≠ .cancelled → inner.sent.any isStart = true) ∧
        result.sent = inner.sent) ∨
      ∃ error, inner.raised = some error ∧ error ≠ .cancelled ∧ inner.sent.any isStart = false ∧
        result.sent = inner.sent ++ errorAnswer framework settings scope error := by
  intro inner result
  have unfolded : result = match inner.raised with
      | none => inner
      | some error =>
          if error = .cancelled ∨ inner.sent.any isStart = true then inner
          else ⟨inner.sent ++ (respond (fun _ => false) (errorAnswer framework settings scope error)).sent, some error⟩ := by
    simp only [result, serverError, onlyHttp, http, ne_eq, not_true_eq_false, if_false]
    rfl
  rw [unfolded]
  cases raised : inner.raised with
  | none => exact .inl ⟨by simp, rfl⟩
  | some error =>
      by_cases quiet : error = .cancelled ∨ inner.sent.any isStart = true
      · refine .inl ⟨?_, by simp only [if_pos quiet]⟩
        intro other same different
        cases same
        exact quiet.resolve_left different
      · refine .inr ⟨error, rfl, fun same => quiet (.inl same), ?_, ?_⟩
        · simpa using fun started => quiet (.inr started)
        · simp only [if_neg quiet, respond_accepted]

theorem annotate_start_carries (documented : Documented framework) (middleware : SecurityHeadersMiddleware)
    (change : RawHeaders → RawHeaders) (annotates : framework.annotate scope = some change) (headers : RawHeaders)
    (carries : Carries middleware headers) : Carries middleware (change headers) := by
  intro line member
  obtain ⟨encoded, fits, held⟩ := carries line member
  refine ⟨encoded, fits, (documented.annotate scope change annotates headers _ ?_).mpr held⟩
  simp only [promised, List.mem_cons, List.not_mem_nil, or_false] at member
  rcases member with rfl | rfl | rfl | rfl | rfl <;> simp [securityNames]

theorem secured_start (documented : Documented framework) (messages : List Message) (status : Nat)
    (headers : RawHeaders)
    (sent : .responseStart status headers ∈
      (messages.filterMap (sendWrapper settings.security scope)).filterMap (annotateStart framework scope)) :
    Carries settings.security headers := by
  obtain ⟨secured, found, annotated⟩ := List.mem_filterMap.mp sent
  obtain ⟨message, _, wrapped⟩ := List.mem_filterMap.mp found
  cases secured with
  | responseStart code lines =>
      obtain ⟨change, annotates, same⟩ := Option.map_eq_some_iff.mp annotated
      cases same
      exact annotate_start_carries framework scope documented settings.security change annotates lines
        (send_wrapper_carries settings.security scope message _ lines wrapped)
  | _ => cases annotated

theorem send_wrapper_same (message wrapped : Message)
    (sent : sendWrapper settings.security scope message = some wrapped) : isStart message = isStart wrapped := by
  cases message with
  | responseStart status headers =>
      obtain ⟨secured, _, same⟩ := Option.map_eq_some_iff.mp sent
      rw [← same]
      rfl
  | _ =>
      cases sent
      rfl

theorem annotate_start_same (message annotated : Message)
    (sent : annotateStart framework scope message = some annotated) : isStart message = isStart annotated := by
  cases message with
  | responseStart status headers =>
      obtain ⟨change, _, same⟩ := Option.map_eq_some_iff.mp sent
      rw [← same]
      rfl
  | _ =>
      cases sent
      rfl

theorem passes_iff (message : Message) :
    ((sendWrapper settings.security scope message).bind (annotateStart framework scope)).isSome ↔
      (isStart message = true → Passable framework settings scope) := by
  cases message with
  | responseStart status headers =>
      have encodable := send_wrapper_start settings.security scope status headers
      cases wrapped : sendWrapper settings.security scope (.responseStart status headers) with
      | none =>
          rw [wrapped] at encodable
          simp only [Option.isSome_none, Bool.false_eq_true, false_iff] at encodable
          simp [isStart, Passable, encodable]
      | some secured =>
          rw [wrapped] at encodable
          obtain ⟨lines, _, same⟩ := Option.map_eq_some_iff.mp wrapped
          have fits : Encodable settings.security := encodable.mp rfl
          rw [← same]
          simp [annotateStart, isStart, Passable, fits]
  | _ => simp [sendWrapper, annotateStart, isStart]

theorem start_leaves_iff (messages : List Message) :
    ((messages.filterMap (sendWrapper settings.security scope)).filterMap (annotateStart framework scope)).any isStart =
        true ↔
      Passable framework settings scope ∧ ∃ message ∈ messages, isStart message = true := by
  rw [List.filterMap_filterMap, List.any_eq_true]
  constructor
  · rintro ⟨left, member, start⟩
    obtain ⟨message, found, through⟩ := List.mem_filterMap.mp member
    obtain ⟨wrapped, secured, annotated⟩ := Option.bind_eq_some_iff.mp through
    have begins : isStart message = true :=
      ((send_wrapper_same settings scope message wrapped secured).trans
        (annotate_start_same framework scope wrapped left annotated)).trans start
    have passed := (passes_iff framework settings scope message).mp (by rw [through]; rfl)
    exact ⟨passed begins, message, found, begins⟩
  · rintro ⟨passable, message, found, begins⟩
    have passed := (passes_iff framework settings scope message).mpr (fun _ => passable)
    obtain ⟨left, through⟩ := Option.isSome_iff_exists.mp passed
    obtain ⟨wrapped, secured, annotated⟩ := Option.bind_eq_some_iff.mp through
    refine ⟨left, List.mem_filterMap.mpr ⟨message, found, through⟩, ?_⟩
    rw [← annotate_start_same framework scope wrapped left annotated,
      ← send_wrapper_same settings scope message wrapped secured]
    exact begins

-- The stack seen from outside: the inner layers with both wrappers around
-- what they send, unless the host or the preflight is answered before.
def wrapped (layers : Layers) (routes : Application) : Reaction :=
  let inner := innerLayers settings layers routes scope (refused framework settings scope)
  ⟨(inner.sent.filterMap (sendWrapper settings.security scope)).filterMap (annotateStart framework scope), inner.raised⟩

theorem refusal_of_wrappers :
    (fun message => match sendWrapper settings.security scope message with
      | none => true
      | some secured =>
          match annotateStart framework scope secured with
          | none => true
          | some _ => false) = refused framework settings scope := by
  funext message
  have passes := passes_iff framework settings scope message
  have refusal : refused framework settings scope message = true ↔
      ¬ (isStart message = true → Passable framework settings scope) := by
    simp [refused]
  rw [← passes] at refusal
  rw [Bool.eq_iff_iff, refusal]
  cases sendWrapper settings.security scope message with
  | none => simp
  | some secured => cases annotated : annotateStart framework scope secured <;> simp [annotated]

theorem stack_wrapped (layers : Layers) (routes : Application) (on : settings.securityHeadersEnabled = true)
    (http : scope.type = .http) (noPreflight : framework.preflight scope = none)
    (hostAccepted : framework.hostAnswer scope = none) :
    (setupMiddleware framework settings layers).foldl (fun app layer => layer app) routes scope (fun _ => false) =
      wrapped framework settings scope layers routes := by
  have inside : setupMiddleware framework settings layers =
      ([layers.timeout, layers.bodySizeLimit] ++ (if settings.rateLimitEnabled then [layers.rateLimit] else []) ++
        [layers.requestId, layers.requestLogging]) ++
      [securityHeaders settings.security, trustedHost framework, cors framework] := by
    simp [setupMiddleware, on]
  rw [inside, List.foldl_append]
  simp only [List.foldl_cons, List.foldl_nil, cors, trustedHost, securityHeaders, onlyHttp, http, ne_eq,
    not_true_eq_false, if_false, noPreflight, hostAccepted, wrapSend]
  rw [wrapped, ← refusal_of_wrappers]
  rfl

def Secured (layers : Layers) (routes : Application) : Prop :=
  ∀ status headers, .responseStart status headers ∈
    (application framework settings layers routes scope (fun _ => false)).sent → Carries settings.security headers

theorem bare_answer_insecure (layers : Layers) (routes : Application) (answer : List Message) (bare : Bare answer)
    (leaves : ∀ message ∈ answer, message ∈ (application framework settings layers routes scope (fun _ => false)).sent) :
    ¬ Secured framework settings scope layers routes := by
  intro secured
  obtain ⟨status, headers, member, missing⟩ := bare_uncarried settings.security answer bare
  exact missing (secured status headers (leaves _ member))

theorem stack_outermost (layers : Layers) (routes : Application) :
    ∃ inner, (setupMiddleware framework settings layers).foldl (fun app layer => layer app) routes =
      cors framework (trustedHost framework inner) := by
  rw [setupMiddleware, List.foldl_append]
  exact ⟨_, rfl⟩

theorem preflight_insecure (documented : Documented framework) (layers : Layers) (routes : Application)
    (http : scope.type = .http) (answer : List Message) (answered : framework.preflight scope = some answer) :
    ¬ Secured framework settings scope layers routes := by
  obtain ⟨inner, stack⟩ := stack_outermost framework settings layers routes
  have reaction : cors framework (trustedHost framework inner) scope (fun _ => false) = ⟨answer, none⟩ := by
    simp [cors, onlyHttp, http, answered, respond_accepted]
  apply bare_answer_insecure framework settings scope layers routes answer (documented.preflight scope answer answered)
  intro message member
  rw [application, stack]
  rcases server_error_cases framework settings scope (cors framework (trustedHost framework inner)) http with
    ⟨_, sent⟩ | ⟨error, raised, _⟩
  · rw [sent, reaction]
    exact member
  · rw [reaction] at raised
    cases raised

theorem rejected_host_insecure (documented : Documented framework) (layers : Layers) (routes : Application)
    (http : scope.type = .http) (noPreflight : framework.preflight scope = none) (answer : List Message)
    (answered : framework.hostAnswer scope = some answer) : ¬ Secured framework settings scope layers routes := by
  obtain ⟨inner, stack⟩ := stack_outermost framework settings layers routes
  obtain ⟨status, headers, rest, rfl, missing⟩ := documented.hostAnswer scope answer answered
  have errors := server_error_cases framework settings scope (cors framework (trustedHost framework inner)) http
  cases annotates : framework.annotate scope with
  | none =>
      have reaction : cors framework (trustedHost framework inner) scope (fun _ => false) =
          ⟨[], some (.other "UnicodeEncodeError".toList)⟩ := by
        simp [cors, trustedHost, onlyHttp, http, noPreflight, answered, wrapSend, respond, annotateStart, annotates]
      rcases errors with ⟨started, _⟩ | ⟨error, raised, _, _, sent⟩
      · rw [reaction] at started
        exact absurd (started _ rfl (by simp)) (by simp)
      · apply bare_answer_insecure framework settings scope layers routes (errorAnswer framework settings scope error)
          (error_answer_bare framework settings scope documented error)
        intro message member
        rw [application, stack, sent]
        exact List.mem_append_right _ member
  | some change =>
      have accepts : (fun message => match annotateStart framework scope message with
          | none => true
          | some _ => false) = fun _ => false := by
        funext message
        cases message <;> simp [annotateStart, annotates]
      have reaction : cors framework (trustedHost framework inner) scope (fun _ => false) =
          ⟨(.responseStart status headers :: rest).filterMap (annotateStart framework scope), none⟩ := by
        simp only [cors, trustedHost, onlyHttp, http, noPreflight, answered, wrapSend, ne_eq, not_true_eq_false, if_false]
        rw [accepts, respond_accepted]
      have bare : Bare ((.responseStart status headers :: rest).filterMap (annotateStart framework scope)) := by
        refine ⟨status, change headers, rest.filterMap (annotateStart framework scope), ?_, ?_⟩
        · simp [annotateStart, annotates]
        · intro line member named
          exact missing line ((documented.annotate scope change annotates headers line named).mp member) named
      apply bare_answer_insecure framework settings scope layers routes _ bare
      intro message member
      rw [application, stack]
      rcases errors with ⟨_, sent⟩ | ⟨error, raised, _⟩
      · rw [sent, reaction]
        exact member
      · rw [reaction] at raised
        cases raised

theorem security_headers_everywhere_iff (documented : Documented framework) (layers : Layers) (routes : Application)
    (on : settings.securityHeadersEnabled = true) (http : scope.type = .http) :
    Secured framework settings scope layers routes ↔
      framework.preflight scope = none ∧ framework.hostAnswer scope = none ∧
        ∀ error, (innerLayers settings layers routes scope (refused framework settings scope)).raised = some error →
          error ≠ .cancelled → Passable framework settings scope ∧
            ∃ message ∈ (innerLayers settings layers routes scope (refused framework settings scope)).sent,
              isStart message = true := by
  cases preflight : framework.preflight scope with
  | some answer =>
      have insecure := preflight_insecure framework settings scope documented layers routes http answer preflight
      simp [insecure]
  | none =>
  cases host : framework.hostAnswer scope with
  | some answer =>
      have insecure := rejected_host_insecure framework settings scope documented layers routes http preflight answer host
      simp [insecure]
  | none =>
  have inside := stack_wrapped framework settings scope layers routes on http preflight host
  have starts := start_leaves_iff framework settings scope
    (innerLayers settings layers routes scope (refused framework settings scope)).sent
  rcases server_error_cases framework settings scope
    ((setupMiddleware framework settings layers).foldl (fun app layer => layer app) routes) http with
    ⟨started, sent⟩ | ⟨error, raised, different, unstarted, sent⟩
  · rw [inside] at started sent
    have secured : Secured framework settings scope layers routes := by
      intro status headers member
      rw [application, sent] at member
      exact secured_start framework settings scope documented _ status headers member
    refine ⟨fun _ => ⟨rfl, rfl, ?_⟩, fun _ => secured⟩
    intro error raised different
    exact starts.mp (started error raised different)
  · rw [inside] at raised unstarted sent
    have insecure : ¬ Secured framework settings scope layers routes := by
      apply bare_answer_insecure framework settings scope layers routes (errorAnswer framework settings scope error)
        (error_answer_bare framework settings scope documented error)
      intro message member
      rw [application, sent]
      exact List.mem_append_right _ member
    refine ⟨fun secured => absurd secured insecure, ?_⟩
    rintro ⟨_, _, covered⟩
    have leaves := starts.mpr (covered error raised different)
    rw [wrapped] at unstarted
    rw [unstarted] at leaves
    cases leaves

end Stack

def plainLine (name value : String) : Bytes × Bytes := (ascii name, ascii value)

def plainFramework : Framework where
  hostAnswer := fun scope =>
    if headersGet scope.headers "host".toList = some "example.com".toList then none
    else some [.responseStart 400 [plainLine "content-length" "19", plainLine "content-type" "text/plain; charset=utf-8"],
      .responseBody (some (ascii "Invalid host header")) none]
  preflight := fun scope =>
    if scope.method = "OPTIONS".toList ∧ (headersGet scope.headers "origin".toList).isSome ∧
        (headersGet scope.headers "access-control-request-method".toList).isSome then
      some [.responseStart 200 [plainLine "access-control-allow-origin" "*", plainLine "content-length" "2"],
        .responseBody (some (ascii "OK")) none]
    else none
  annotate := fun scope =>
    match headersGet scope.headers "origin".toList with
    | none => some (fun headers => headers)
    | some _ => some (fun headers => headers ++ [plainLine "access-control-allow-origin" "*"])
  debugAnswer := fun _ _ => [.responseStart 500 [plainLine "content-type" "text/plain; charset=utf-8"], .responseBody none none]
  writer := ⟨fun response => plainLine "content-type" "application/json" ::
    response.headers.map (fun line => (utf8 line.1, utf8 line.2)), fun _ => []⟩

theorem plain_framework_documented : Documented plainFramework where
  hostAnswer := by
    intro scope answer answered
    simp only [plainFramework] at answered
    split at answered
    · cases answered
    · cases answered
      exact ⟨_, _, _, rfl, by decide⟩
  preflight := by
    intro scope answer answered
    simp only [plainFramework] at answered
    split at answered
    · cases answered
      exact ⟨_, _, _, rfl, by decide⟩
    · cases answered
  debugAnswer := fun _ _ => ⟨_, _, _, rfl, by decide⟩
  writer := by
    intro response none
    refine ⟨_, _, _, rfl, ?_⟩
    simp only [plainFramework, none, List.map_nil]
    decide
  annotate := by
    intro scope change annotates headers line named
    simp only [plainFramework] at annotates
    split at annotates
    · cases annotates
      exact Iff.rfl
    · cases annotates
      have other : line ≠ plainLine "access-control-allow-origin" "*" := by
        intro same
        rw [same] at named
        exact absurd named (by decide)
      simp [other]

def plainSettings : Settings :=
  ⟨false, false, true, ⟨false, 31536000, "no-referrer".toList, "geolocation=()".toList, [], false, []⟩⟩

def plainLayers : Layers := ⟨id, id, id, id, id⟩

def plainScope : HttpScope := { type := .http, headers := [plainLine "host" "example.com"] }

theorem security_headers_everywhere_iff_get :
    Secured plainFramework plainSettings plainScope plainLayers (fun _ _ => ⟨[.responseStart 204 []], none⟩) :=
  (security_headers_everywhere_iff plainFramework plainSettings plainScope plain_framework_documented plainLayers _ rfl
    rfl).mpr ⟨by decide, by decide, by simp [innerLayers, plainSettings, plainLayers]⟩

theorem unhandled_error_insecure :
    ¬ ∀ (framework : Framework) (settings : Settings) (scope : HttpScope) (layers : Layers) (routes : Application),
      Documented framework → settings.securityHeadersEnabled = true → scope.type = .http →
      Secured framework settings scope layers routes := by
  intro claim
  have secured := claim plainFramework plainSettings plainScope plainLayers
    (fun _ _ => ⟨[], some (.other "RuntimeError".toList)⟩) plain_framework_documented rfl rfl
  have answered : (application plainFramework plainSettings plainLayers
      (fun _ _ => ⟨[], some (.other "RuntimeError".toList)⟩) plainScope (fun _ => false)).sent =
      plainFramework.writer.messages (unhandledExceptionResponse plainScope) := rfl
  exact bare_answer_insecure plainFramework plainSettings plainScope plainLayers _ _
    (plain_framework_documented.writer _ rfl) (fun message member => by rw [answered]; exact member) secured

end Chassis.Security
