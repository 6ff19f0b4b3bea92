import Chassis.TracingIds

set_option autoImplicit false

namespace Chassis.Tracing

open Asgi Headers Text

-- The two context variables as they are stored; none is one that was never
-- set, which get reads as its default.
structure Context where
  requestId : Option Str := none
  correlationId : Option Str := none
deriving DecidableEq

def Context.get (context : Context) : TraceIds := ⟨context.requestId.getD ['-'], context.correlationId.getD ['-']⟩

-- A token remembers what its variable held before the set that made it.
structure RequestContextTokens where
  requestId : Option Str
  correlationId : Option Str

def setRequestContext (context : Context) (ids : TraceIds) : Context × RequestContextTokens :=
  (⟨some ids.requestId, some ids.correlationId⟩, ⟨context.requestId, context.correlationId⟩)

def resetRequestContext (tokens : RequestContextTokens) : Context := ⟨tokens.requestId, tokens.correlationId⟩

structure Span where
  isRecording : Bool
  attributes : Dict Str Str

def Span.setAttribute (span : Span) (key : String) (value : Str) : Span :=
  { span with attributes := span.attributes.set key.toList value }

def Span.identify (span : Span) (ids : TraceIds) : Span :=
  if span.isRecording then
    (span.setAttribute "app.request_id" ids.requestId).setAttribute "app.correlation_id" ids.correlationId
  else span

structure InnerRun where
  messages : List Message
  context : Context
  result : Except Raised Unit

inductive Exit where
  | returned
  | raised (error : Raised)
  | unicodeDecodeError
deriving DecidableEq

def exitOf : Except Raised Unit → Exit
  | .ok _ => .returned
  | .error error => .raised error

structure Call where
  handed : List Handed
  sent : List Message
  context : Context
  span : Span
  exit : Exit

def callInner (inner : Handed → InnerRun) (handed : Handed) (send : Message → Message) (span : Span) : Call :=
  let run := inner handed
  ⟨[handed], run.messages.map send, run.context, span, exitOf run.result⟩

-- RequestIDMiddleware.__call__ with its effects outside the response.
def requestIdCall (scope : Scope) (uuid : Str) (state : Dict Str Str) (context : Context) (span : Span)
    (inner : Handed → InnerRun) : Call :=
  if scope.type ≠ .http then callInner inner ⟨state, context.get⟩ id span
  else
    match traceIds scope.headers uuid with
    | none => ⟨[], [], context, span, .unicodeDecodeError⟩
    | some ids =>
        let (entered, tokens) := setRequestContext context ids
        let named := (state.set "request_id".toList ids.requestId).set "correlation_id".toList ids.correlationId
        let called := callInner inner ⟨named, entered.get⟩ (stamp ids) (span.identify ids)
        -- finally: reset_request_context(tokens)
        { called with context := resetRequestContext tokens }

-- The trace header of the client, each header taken at its last line.
def givenId (headers : RawHeaders) (name : Bytes) : Option Bytes :=
  (named name headers).getLast?.filter (fun value => value ≠ [])

def clientId (headers : RawHeaders) : Option Bytes :=
  (givenId headers correlationHeaderName).or (givenId headers headerName)

-- A start leaves with the value in place of its first X-Correlation-ID line,
-- every other message as it is.
def Carries (value : Bytes) (message passed : Message) : Prop :=
  match message with
  | .responseStart status headers => ∃ stamped, passed = .responseStart status stamped ∧
      named correlationHeaderName stamped = value :: (named correlationHeaderName headers).tail
  | _ => passed = message

structure Unharmed (scope : Scope) (context : Context) (inner : Handed → InnerRun) (call : Call) : Prop where
  once : ∃ handed, call.handed = [handed] ∧ call.exit = exitOf (inner handed).result ∧
    ∀ value, clientId scope.headers = some value → List.Forall₂ (Carries value) (inner handed).messages call.sent
  restored : call.context = context

theorem trace_ids_chosen (headers : RawHeaders) (uuid : Str) :
    traceIds headers uuid = (decodeUtf8 ((clientId headers).getD (utf8 uuid))).map (fun decoded => ⟨uuid, decoded⟩) := by
  simp only [traceIds, clientId, givenId, lowered_get]

theorem stamp_carries (ids : TraceIds) (message : Message) : Carries (utf8 ids.correlationId) message (stamp ids message) := by
  cases message with
  | responseStart status headers =>
      obtain ⟨stamped, same, _, correlation⟩ := stamp_start ids status headers
      exact ⟨stamped, same, correlation⟩
  | httpRequest body moreBody => rfl
  | httpDisconnect => rfl
  | responseBody body moreBody => rfl
  | other type => rfl

theorem span_identified (span : Span) (ids : TraceIds) (recording : span.isRecording = true) :
    (span.identify ids).attributes.get "app.request_id".toList = some ids.requestId ∧
      (span.identify ids).attributes.get "app.correlation_id".toList = some ids.correlationId := by
  rw [Span.identify, if_pos recording]
  constructor
  · rw [Span.setAttribute, Dict.get_set, if_neg (by decide), Span.setAttribute, Dict.get_set, if_pos rfl]
  · rw [Span.setAttribute, Dict.get_set, if_pos rfl]

theorem identified_unharmed (scope : Scope) (uuid : Str) (state : Dict Str Str) (context : Context) (span : Span)
    (inner : Handed → InnerRun) (http : scope.type = .http) (ids : TraceIds)
    (identified : traceIds scope.headers uuid = some ids)
    (same : ∀ value, clientId scope.headers = some value → utf8 ids.correlationId = value) :
    Unharmed scope context inner (requestIdCall scope uuid state context span inner) := by
  have called : requestIdCall scope uuid state context span inner =
      { callInner inner
          ⟨(state.set "request_id".toList ids.requestId).set "correlation_id".toList ids.correlationId, ids⟩ (stamp ids)
          (span.identify ids) with context := context } := by
    simp [requestIdCall, http, identified, setRequestContext, resetRequestContext, Context.get]
  rw [called]
  refine ⟨⟨_, rfl, rfl, ?_⟩, rfl⟩
  intro value chosen
  rw [← same value chosen]
  exact List.forall₂_map_right_iff.mpr (List.forall₂_same.mpr (fun message _ => stamp_carries ids message))

theorem client_tracing_harmless_iff (scope : Scope) (uuid : Str) (state : Dict Str Str) (context : Context)
    (span : Span) (inner : Handed → InnerRun) (http : scope.type = .http) :
    Unharmed scope context inner (requestIdCall scope uuid state context span inner) ↔
      ∀ value, clientId scope.headers = some value → ∃ text, decodeUtf8 value = some text := by
  have chosen := trace_ids_chosen scope.headers uuid
  cases given : clientId scope.headers with
  | none =>
      rw [given, Option.getD_none, decode_utf8] at chosen
      have unharmed := identified_unharmed scope uuid state context span inner http _ chosen (by simp [given])
      exact iff_of_true unharmed (by simp)
  | some value =>
      rw [given, Option.getD_some] at chosen
      cases decoded : decodeUtf8 value with
      | none =>
          rw [decoded] at chosen
          have refused : requestIdCall scope uuid state context span inner =
              ⟨[], [], context, span, .unicodeDecodeError⟩ := by
            simp [requestIdCall, http, chosen]
          constructor
          · intro unharmed
            obtain ⟨handed, once, _⟩ := unharmed.once
            rw [refused] at once
            cases once
          · intro valid
            obtain ⟨text, read⟩ := valid value rfl
            rw [decoded] at read
            cases read
      | some text =>
          rw [decoded] at chosen
          have same : ∀ other, clientId scope.headers = some other → utf8 text = other := by
            intro other also
            rw [given] at also
            rw [← Option.some.inj also]
            exact utf8_decoded value text decoded
          have unharmed := identified_unharmed scope uuid state context span inner http _ chosen same
          refine iff_of_true unharmed ?_
          intro other also
          rw [← Option.some.inj also]
          exact ⟨text, decoded⟩

def quietInner (_ : Handed) : InnerRun := ⟨[.responseStart 200 [], .responseBody none none], {}, .ok ()⟩

def tracedScope (value : Bytes) : Scope := { type := .http, headers := [(ascii "x-correlation-id", value)] }

theorem traced_client_id (value : Bytes) (present : value ≠ []) : clientId (tracedScope value).headers = some value := by
  have line : named correlationHeaderName (tracedScope value).headers = [value] := by
    have same : lower (ascii "x-correlation-id") = lower correlationHeaderName := by decide
    rw [tracedScope, named_cons, if_pos same, named_nil]
  have given : givenId (tracedScope value).headers correlationHeaderName = some value := by
    simp [givenId, line, Option.filter, present]
  rw [clientId, given, Option.some_or]

theorem client_tracing_harmless_iff_utf8 :
    Unharmed (tracedScope (utf8 ['é'])) {} quietInner
        (requestIdCall (tracedScope (utf8 ['é'])) ['u'] Dict.empty {} ⟨true, Dict.empty⟩ quietInner) ↔
      ∀ value, clientId (tracedScope (utf8 ['é'])).headers = some value → ∃ text, decodeUtf8 value = some text :=
  client_tracing_harmless_iff (tracedScope (utf8 ['é'])) ['u'] Dict.empty {} ⟨true, Dict.empty⟩ quietInner rfl

-- One byte above 0x7F is enough: the app is never called.
theorem invalid_correlation_id_raises :
    (requestIdCall (tracedScope [0xFF]) ['u'] Dict.empty {} ⟨false, Dict.empty⟩ quietInner).handed = [] ∧
      (requestIdCall (tracedScope [0xFF]) ['u'] Dict.empty {} ⟨false, Dict.empty⟩ quietInner).exit =
        .unicodeDecodeError ∧
      ¬ ∀ (scope : Scope) (uuid : Str) (state : Dict Str Str) (context : Context) (span : Span)
        (inner : Handed → InnerRun), scope.type = .http →
        Unharmed scope context inner (requestIdCall scope uuid state context span inner) := by
  have undecodable : decodeUtf8 [0xFF] = none := by decide +kernel
  have chosen := trace_ids_chosen (tracedScope [0xFF]).headers ['u']
  rw [traced_client_id [0xFF] (List.cons_ne_nil _ _), Option.getD_some, undecodable] at chosen
  have refused : requestIdCall (tracedScope [0xFF]) ['u'] Dict.empty {} ⟨false, Dict.empty⟩ quietInner =
      ⟨[], [], {}, ⟨false, Dict.empty⟩, .unicodeDecodeError⟩ := by
    have http : ¬ (tracedScope [0xFF]).type ≠ .http := by decide
    rw [requestIdCall, if_neg http, chosen]
    rfl
  refine ⟨congrArg Call.handed refused, congrArg Call.exit refused, ?_⟩
  intro claim
  obtain ⟨handed, once, _⟩ :=
    (claim (tracedScope [0xFF]) ['u'] Dict.empty {} ⟨false, Dict.empty⟩ quietInner rfl).once
  rw [refused] at once
  cases once

end Chassis.Tracing
