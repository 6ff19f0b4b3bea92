import Chassis.BodySize
import Chassis.Dict
import Chassis.FormEncoding
import Chassis.JsonRender

set_option autoImplicit false

namespace Chassis.RequestLogging

open Asgi Text FormEncoding JsonRender

-- The scope entries that the log reads; a missing key is none.
inductive QueryString where
  | bytes (raw : Bytes)
  | other

structure LoggedScope where
  type : ScopeType
  client : Option (Str × Nat) := none
  path : Option Str := none
  method : Option Str := none
  queryString : Option QueryString := none
  headers : RawHeaders := []

def redacted : Str := "[redacted]".toList

-- The variables of __call__ that send_wrapper assigns.
structure LogState where
  statusCode : Nat := 500
  requestId : Str := ['-']
  correlationId : Str := ['-']
  responseBytes : Option Int := none

structure LogRecord where
  event : Str
  requestId : Str
  correlationId : Str
  httpMethod : Str
  httpPath : Str
  httpQuery : Str
  httpStatusCode : Nat
  httpStatusClass : Str
  durationMs : PyFloat
  clientIp : Str
  userAgent : Str
  referer : Str
  requestBytes : Option Int
  responseBytes : Option Int
  outcome : Str

def headersToDict (headers : RawHeaders) : Dict Bytes Bytes :=
  Dict.ofPairs (headers.map (fun line => (lower line.1, line.2)))

-- int(value.decode("ascii")), none for the ValueError that is caught.
def parseAsciiInt (value : Option Bytes) : Option Int :=
  value.bind (fun raw => if raw.all (fun byte => byte < 128) then BodySize.intFromBytes raw else none)

def decodeHeader (value : Option Bytes) : Str :=
  match value with
  | none => ['-']
  | some raw => decodeReplace raw

def outcomeFromStatus (statusCode : Nat) : Str :=
  if 500 ≤ statusCode then "server_error".toList
  else if 400 ≤ statusCode then "client_error".toList
  else "success".toList

def sanitizeQueryString (queryString : Str) : Str :=
  if queryString = [] then [] else urlencode ((parseQsl queryString).map (fun pair => (pair.1, redacted)))

-- The same with what quote would raise of a name that it cannot encode.
def sanitizeStrictly (queryString : Str) : Except RenderError Str :=
  if queryString = [] then .ok []
  else urlencodeText ((parseQsl queryString).map (fun pair => (points pair.1, points redacted)))

def queryText (queryString : Option QueryString) : Str :=
  match queryString.getD (.bytes []) with
  | .bytes raw => decodeReplace raw
  | .other => []

-- The finally block, elapsed seconds after the start. None of its steps raises:
-- malformed bytes are replaced and a bad Content-Length is caught.
def logRecord (redactHeaders : Bool) (scope : LoggedScope) (state : LogState) (elapsed : Rat) : LogRecord :=
  let headers := headersToDict scope.headers
  { event := "http.request.completed".toList
    requestId := state.requestId
    correlationId := state.correlationId
    httpMethod := scope.method.getD ['-']
    httpPath := scope.path.getD ['-']
    httpQuery := sanitizeQueryString (queryText scope.queryString)
    httpStatusCode := state.statusCode
    httpStatusClass := natText (state.statusCode / 100) ++ "xx".toList
    durationMs := (PyFloat.finite (elapsed * 1000)).round2
    clientIp := (scope.client.map Prod.fst).getD ['-']
    userAgent := if redactHeaders then redacted else decodeHeader (headers.get (ascii "user-agent"))
    referer := if redactHeaders then redacted else decodeHeader (headers.get (ascii "referer"))
    requestBytes := parseAsciiInt (headers.get (ascii "content-length"))
    responseBytes := state.responseBytes
    outcome := outcomeFromStatus state.statusCode }

section Middleware

variable {σ : Type}

-- send, or the application that is given it, changes the world and may raise.
abbrev Send (ω : Type) := Message → ω → Except Raised Unit × ω
abbrev Application (ω : Type) := Send ω → ω → Except Raised Unit × ω

def decodeError : Raised := .other "UnicodeDecodeError".toList

-- What send_wrapper notes of a response start; the ids are decoded strictly.
def noteStart (status : Nat) (headers : RawHeaders) (state : LogState) : Except Raised Unit × LogState :=
  let names := headersToDict headers
  match decodeUtf8 ((names.get (ascii "x-request-id")).getD (ascii "-")) with
  | none => (.error decodeError, { state with statusCode := status })
  | some requestId =>
      match decodeUtf8 ((names.get (ascii "x-correlation-id")).getD (ascii "-")) with
      | none => (.error decodeError, { state with statusCode := status, requestId := requestId })
      | some correlationId =>
          let contentLength := names.get (ascii "content-length")
          (.ok (),
            { statusCode := status
              requestId := requestId
              correlationId := correlationId
              responseBytes := if contentLength.isSome then parseAsciiInt contentLength else state.responseBytes })

def passThrough (send : Send σ) : Send (σ × LogState) := fun message world =>
  let (sent, after) := send message world.1
  (sent, after, world.2)

def sendWrapper (send : Send σ) : Send (σ × LogState) := fun message world =>
  match message with
  | .responseStart status headers =>
      match noteStart status headers world.2 with
      | (.error raised, noted) => (.error raised, world.1, noted)
      | (.ok (), noted) => passThrough send message (world.1, noted)
  | _ => passThrough send message world

def call (redactHeaders : Bool) (app : Application (σ × LogState)) (send : Send σ) (scope : LoggedScope) (elapsed : Rat)
    (world : σ) : Except Raised Unit × σ × Option LogRecord :=
  if scope.type = .http then
    let (outcome, after, state) := app (sendWrapper send) (world, {})
    (outcome, after, some (logRecord redactHeaders scope state elapsed))
  else
    let (outcome, after, _) := app (passThrough send) (world, {})
    (outcome, after, none)

end Middleware

def queryNames (raw : Bytes) : List Str := (parseQsl (decodeReplace raw)).map Prod.fst

def httpQuery (raw : Bytes) : Str := sanitizeQueryString (decodeReplace raw)

theorem sanitize_query_string (text : Str) :
    sanitizeQueryString text = urlencode (((parseQsl text).map Prod.fst).map (fun name => (name, redacted))) := by
  rw [sanitizeQueryString, List.map_map]
  by_cases empty : text = []
  · rw [if_pos empty, empty]
    rfl
  · rw [if_neg empty]
    rfl

theorem sanitize_strictly (text : Str) : sanitizeStrictly text = .ok (sanitizeQueryString text) := by
  unfold sanitizeStrictly sanitizeQueryString
  by_cases empty : text = []
  · rw [if_pos empty, if_pos empty]
  · rw [if_neg empty, if_neg empty, ← urlencode_points, List.map_map]
    rfl

theorem parse_sanitized (text : Str) :
    parseQsl (sanitizeQueryString text) = ((parseQsl text).map Prod.fst).map (fun name => (name, redacted)) := by
  rw [sanitize_query_string, parse_urlencode]

theorem sanitized_names (text : Str) :
    (parseQsl (sanitizeQueryString text)).map Prod.fst = (parseQsl text).map Prod.fst := by
  rw [parse_sanitized, List.map_map]
  exact List.map_id _

theorem query_redaction {σ : Type} (redactHeaders : Bool) (app : Application (σ × LogState)) (send : Send σ)
    (scope : LoggedScope) (elapsed : Rat) (world : σ) :
    (∀ left right, httpQuery left = httpQuery right ↔ queryNames left = queryNames right) ∧
    (∀ raw, parseQsl (httpQuery raw) = (queryNames raw).map (fun name => (name, redacted))) ∧
    (∀ raw, sanitizeQueryString (httpQuery raw) = httpQuery raw) ∧
    (∀ raw, sanitizeStrictly (decodeReplace raw) = .ok (httpQuery raw)) ∧
    ∀ raw, ∃ record,
      call redactHeaders app send { scope with type := .http, queryString := some (.bytes raw) } elapsed world =
        ((app (sendWrapper send) (world, {})).1, (app (sendWrapper send) (world, {})).2.1, some record) ∧
      record.httpQuery = httpQuery raw := by
  refine ⟨?_, fun raw => parse_sanitized (decodeReplace raw), ?_, fun raw => sanitize_strictly (decodeReplace raw), ?_⟩
  · intro left right
    constructor
    · intro same
      have names := congrArg (fun text => (parseQsl text).map Prod.fst) same
      simpa only [httpQuery, queryNames, sanitized_names] using names
    · intro same
      unfold queryNames at same
      rw [httpQuery, httpQuery, sanitize_query_string, sanitize_query_string, same]
  · intro raw
    rw [httpQuery, sanitize_query_string, sanitized_names, ← sanitize_query_string]
  · intro raw
    exact ⟨_, rfl, rfl⟩

end Chassis.RequestLogging
