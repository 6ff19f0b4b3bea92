import Chassis.Headers
import Chassis.Response

set_option autoImplicit false

namespace Chassis.Tracing

open Asgi Headers Text

def headerName : Bytes := ascii "X-Request-ID"
def correlationHeaderName : Bytes := ascii "X-Correlation-ID"

structure TraceIds where
  requestId : Str
  correlationId : Str
deriving DecidableEq

-- The context variables of the logging package.
def absentIds : TraceIds := ⟨['-'], ['-']⟩

-- The chain of `or` skips a header that is missing or empty.
def traceIds (headers : RawHeaders) (uuid : Str) : Option TraceIds :=
  let given (name : Bytes) := ((lowered headers).get (lower name)).filter (fun value => value ≠ [])
  let correlation := ((given correlationHeaderName).or (given headerName)).getD (utf8 uuid)
  (decodeUtf8 correlation).map (fun decoded => ⟨uuid, decoded⟩)

-- RequestIDMiddleware._upsert_header
def upsertHeader : RawHeaders → Bytes → Bytes → RawHeaders
  | [], key, value => [(key, value)]
  | (name, old) :: rest, key, value =>
      if lower name = lower key then (name, value) :: rest else (name, old) :: upsertHeader rest key value

-- RequestIDMiddleware.send_wrapper
def stamp (ids : TraceIds) : Message → Message
  | .responseStart status headers =>
      let identified := upsertHeader headers headerName (utf8 ids.requestId)
      .responseStart status (upsertHeader identified correlationHeaderName (utf8 ids.correlationId))
  | message => message

structure RequestLog where
  statusCode : Nat := 500
  ids : TraceIds := absentIds

-- RequestLoggingMiddleware.send_wrapper: what it notes, and whether it gets to
-- pass the message on; a value that is no UTF-8 makes it raise.
def observe (log : RequestLog) : Message → RequestLog × Bool
  | .responseStart status headers =>
      let value (name : Bytes) := decodeUtf8 (((lowered headers).get (lower name)).getD (ascii "-"))
      let started := { log with statusCode := status }
      match value headerName with
      | none => (started, false)
      | some requestId =>
          let identified := { started with ids := { started.ids with requestId := requestId } }
          match value correlationHeaderName with
          | none => (identified, false)
          | some correlationId => ({ identified with ids := { identified.ids with correlationId := correlationId } }, true)
  | _ => (log, true)

def observeAll : RequestLog → List Message → RequestLog × List Message
  | log, [] => (log, [])
  | log, message :: rest =>
      let (noted, passed) := observe log message
      let (last, sent) := observeAll noted rest
      (last, if passed then message :: sent else sent)

-- RequestContextFilter.filter: identifiers that the record has are kept.
def filterRecord (context : TraceIds) (requestId correlationId : Option Str) : TraceIds :=
  ⟨requestId.getD context.requestId, correlationId.getD context.correlationId⟩

-- What the inner app is called with.
structure Handed where
  state : Dict Str Str
  context : TraceIds

structure Served where
  handed : Option Handed
  sent : List Message
  completed : Option (Nat × TraceIds)

-- RequestLoggingMiddleware around RequestIDMiddleware around an app that tries
-- to send these messages. A correlation id that is no UTF-8 makes the inner
-- middleware raise before it calls the app.
def serve (scope : Scope) (uuid : Str) (state : Dict Str Str) (context : TraceIds) (messages : List Message) : Served :=
  if scope.type ≠ .http then ⟨none, messages, none⟩
  else
    let event (log : RequestLog) :=
      (log.statusCode, filterRecord context (some log.ids.requestId) (some log.ids.correlationId))
    match traceIds scope.headers uuid with
    | none => ⟨none, [], some (event {})⟩
    | some ids =>
        let named := (state.set "request_id".toList ids.requestId).set "correlation_id".toList ids.correlationId
        let (log, sent) := observeAll {} (messages.map (stamp ids))
        ⟨some ⟨named, ids⟩, sent, some (event log)⟩

def Agrees (messages : List Message) (served : Served) : Prop :=
  ∃ handed requestId correlationId, served.handed = some handed ∧
    handed.state.get "request_id".toList = some requestId ∧
    handed.state.get "correlation_id".toList = some correlationId ∧
    handed.context = ⟨requestId, correlationId⟩ ∧
    (served.sent.filter isStart).length = (messages.filter isStart).length ∧
    (∀ status headers, .responseStart status headers ∈ served.sent →
      named headerName headers = [utf8 requestId] ∧ named correlationHeaderName headers = [utf8 correlationId]) ∧
    served.completed.map Prod.snd = some ⟨requestId, correlationId⟩

def Single (headers : RawHeaders) : Prop :=
  (named headerName headers).length ≤ 1 ∧ (named correlationHeaderName headers).length ≤ 1

theorem upsert_same (headers : RawHeaders) (key value : Bytes) :
    named key (upsertHeader headers key value) = value :: (named key headers).tail := by
  induction headers with
  | nil => simp [upsertHeader, named]
  | cons line rest ih =>
      obtain ⟨name, old⟩ := line
      rw [upsertHeader, named_cons]
      by_cases same : lower name = lower key
      · rw [if_pos same, if_pos same, named_cons, if_pos same]
        rfl
      · rw [if_neg same, if_neg same, named_cons, if_neg same, ih]

theorem upsert_other (headers : RawHeaders) (key other value : Bytes) (different : lower key ≠ lower other) :
    named other (upsertHeader headers key value) = named other headers := by
  induction headers with
  | nil => simp [upsertHeader, named, different]
  | cons line rest ih =>
      obtain ⟨name, old⟩ := line
      rw [upsertHeader]
      by_cases same : lower name = lower key
      · have apart : lower name ≠ lower other := fun eq => different (same.symm.trans eq)
        rw [if_pos same, named_cons, named_cons, if_neg apart, if_neg apart]
      · rw [if_neg same, named_cons, named_cons, ih]

theorem names_differ : lower headerName ≠ lower correlationHeaderName := by decide

theorem stamp_start (ids : TraceIds) (status : Nat) (headers : RawHeaders) :
    ∃ stamped, stamp ids (.responseStart status headers) = .responseStart status stamped ∧
      named headerName stamped = utf8 ids.requestId :: (named headerName headers).tail ∧
      named correlationHeaderName stamped = utf8 ids.correlationId :: (named correlationHeaderName headers).tail := by
  refine ⟨_, rfl, ?_, ?_⟩
  · rw [upsert_other _ _ _ _ names_differ.symm, upsert_same]
  · rw [upsert_same, upsert_other _ _ _ _ names_differ]

theorem stamp_is_start (ids : TraceIds) (message : Message) : isStart (stamp ids message) = isStart message := by
  cases message <;> rfl

theorem observe_single (log : RequestLog) (ids : TraceIds) (status : Nat) (headers : RawHeaders)
    (request : named headerName headers = [utf8 ids.requestId])
    (correlation : named correlationHeaderName headers = [utf8 ids.correlationId]) :
    observe log (.responseStart status headers) = (⟨status, ids⟩, true) := by
  simp only [observe, lowered_get, request, correlation]
  simp only [List.getLast?_singleton, Option.getD_some, decode_utf8]

theorem observe_rest (log : RequestLog) (message : Message) (rest : isStart message = false) :
    observe log message = (log, true) := by
  cases message <;> first | rfl | cases rest

theorem tail_of_short (name : Bytes) (headers : RawHeaders) :
    (named name headers).tail = [] ↔ (named name headers).length ≤ 1 := by
  cases named name headers with
  | nil => simp
  | cons first rest => simp

theorem observe_all_sublist (log : RequestLog) (messages : List Message) :
    (observeAll log messages).2.Sublist messages := by
  induction messages generalizing log with
  | nil => exact List.Sublist.slnil
  | cons message rest ih =>
      have later := ih (observe log message).1
      simp only [observeAll]
      split
      · exact later.cons_cons message
      · exact later.cons message

theorem observe_all_settled (ids : TraceIds) (log : RequestLog) (messages : List Message)
    (settled : ∀ status headers, .responseStart status headers ∈ messages →
      named headerName headers = [utf8 ids.requestId] ∧
        named correlationHeaderName headers = [utf8 ids.correlationId]) :
    (observeAll log messages).2 = messages ∧
      (log.ids = ids ∨ (∃ message ∈ messages, isStart message = true) → (observeAll log messages).1.ids = ids) := by
  induction messages generalizing log with
  | nil =>
      refine ⟨rfl, ?_⟩
      rintro (same | ⟨message, member, _⟩)
      · exact same
      · cases member
  | cons message rest ih =>
      have onward (noted : RequestLog) := ih noted
        (fun status headers member => settled status headers (List.mem_cons_of_mem message member))
      simp only [observeAll]
      cases start : isStart message with
      | true =>
          cases message <;> simp only [isStart, Bool.false_eq_true] at start
          next status headers =>
            obtain ⟨request, correlation⟩ := settled status headers (by simp)
            rw [observe_single log ids status headers request correlation]
            obtain ⟨sent, last⟩ := onward ⟨status, ids⟩
            exact ⟨by simp [sent], fun _ => last (.inl rfl)⟩
      | false =>
          rw [observe_rest log message start]
          obtain ⟨sent, last⟩ := onward log
          refine ⟨by simp [sent], ?_⟩
          rintro (same | ⟨other, member, begins⟩)
          · exact last (.inl same)
          · cases List.mem_cons.mp member with
            | inl this =>
                rw [this, start] at begins
                cases begins
            | inr later => exact last (.inr ⟨other, later, begins⟩)

theorem stamp_settled (ids : TraceIds) (messages : List Message)
    (single : ∀ status headers, .responseStart status headers ∈ messages → Single headers) (status : Nat)
    (headers : RawHeaders) (member : .responseStart status headers ∈ messages.map (stamp ids)) :
    named headerName headers = [utf8 ids.requestId] ∧
      named correlationHeaderName headers = [utf8 ids.correlationId] := by
  obtain ⟨message, found, stamped⟩ := List.mem_map.mp member
  cases message with
  | responseStart code original =>
      obtain ⟨own, same, request, correlation⟩ := stamp_start ids code original
      rw [same] at stamped
      cases stamped
      obtain ⟨one, other⟩ := single status original found
      rw [(tail_of_short headerName original).mpr one] at request
      rw [(tail_of_short correlationHeaderName original).mpr other] at correlation
      exact ⟨request, correlation⟩
  | _ => cases stamped

theorem starts_leave (ids : TraceIds) (log : RequestLog) (messages : List Message)
    (counted : ((observeAll log (messages.map (stamp ids))).2.filter isStart).length = (messages.filter isStart).length)
    (message : Message) (member : message ∈ messages) (start : isStart message = true) :
    stamp ids message ∈ (observeAll log (messages.map (stamp ids))).2 := by
  have kept := (observe_all_sublist log (messages.map (stamp ids))).filter isStart
  have same : ((messages.map (stamp ids)).filter isStart).length = (messages.filter isStart).length := by
    rw [List.filter_map, List.length_map]
    congr 2
    funext other
    exact stamp_is_start ids other
  have all := kept.eq_of_length (counted.trans same.symm)
  have found : stamp ids message ∈ (messages.map (stamp ids)).filter isStart :=
    List.mem_filter.mpr ⟨List.mem_map_of_mem member, (stamp_is_start ids message).trans start⟩
  rw [← all] at found
  exact (List.mem_filter.mp found).1

theorem tracing_ids_agree_iff (scope : Scope) (uuid : Str) (state : Dict Str Str) (context ids : TraceIds)
    (messages : List Message) (http : scope.type = .http) (identified : traceIds scope.headers uuid = some ids)
    (started : ∃ message ∈ messages, isStart message = true) :
    Agrees messages (serve scope uuid state context messages) ↔
      ∀ status headers, .responseStart status headers ∈ messages → Single headers := by
  have served : serve scope uuid state context messages =
      ⟨some ⟨(state.set "request_id".toList ids.requestId).set "correlation_id".toList ids.correlationId, ids⟩,
        (observeAll {} (messages.map (stamp ids))).2,
        some ((observeAll {} (messages.map (stamp ids))).1.statusCode, (observeAll {} (messages.map (stamp ids))).1.ids)⟩ := by
    simp [serve, http, identified, filterRecord]
  rw [served]
  constructor
  · rintro ⟨handed, requestId, correlationId, given, _, _, held, counted, lines, _⟩ status headers member
    have known : ids = ⟨requestId, correlationId⟩ := by
      rw [← held, ← Option.some.inj given]
    have leaves := starts_leave ids {} messages counted (.responseStart status headers) member rfl
    obtain ⟨stamped, same, request, correlation⟩ := stamp_start ids status headers
    rw [same] at leaves
    obtain ⟨one, other⟩ := lines status stamped leaves
    rw [known] at request correlation
    rw [request] at one
    rw [correlation] at other
    exact ⟨(tail_of_short _ _).mp (List.cons.inj one).2, (tail_of_short _ _).mp (List.cons.inj other).2⟩
  · intro single
    have settled := stamp_settled ids messages single
    obtain ⟨sent, last⟩ := observe_all_settled ids {} (messages.map (stamp ids)) settled
    have stampedStart : ∃ message ∈ messages.map (stamp ids), isStart message = true := by
      obtain ⟨message, member, start⟩ := started
      exact ⟨stamp ids message, List.mem_map_of_mem member, (stamp_is_start ids message).trans start⟩
    refine ⟨_, ids.requestId, ids.correlationId, rfl, ?_, ?_, rfl, ?_, ?_, ?_⟩
    · rw [Dict.get_set, if_neg (by decide), Dict.get_set, if_pos rfl]
    · rw [Dict.get_set, if_pos rfl]
    · simp only [sent]
      rw [List.filter_map, List.length_map]
      congr 2
      funext other
      exact stamp_is_start ids other
    · simp only [sent]
      exact settled
    · simp only [Option.map_some, last (.inr stampedStart)]

def twoIdsResponse : List Message :=
  [.responseStart 200 [(ascii "x-request-id", ascii "a"), (ascii "X-Request-Id", ascii "b")]]

theorem generated_ids : traceIds [] ['u'] = some ⟨['u'], ['u']⟩ := by
  simp [traceIds, lowered, Dict.get, Dict.empty, decode_utf8]

def oneIdHeaders : RawHeaders :=
  [(ascii "content-type", ascii "text/plain"), (ascii "X-Request-ID", ascii "a"), (ascii "vary", ascii "Origin")]
def oneIdResponse : List Message := [.responseStart 200 oneIdHeaders, .responseBody (some (ascii "hello")) none]

theorem tracing_ids_agree_iff_one_id :
    Agrees oneIdResponse (serve { type := .http } ['u'] Dict.empty absentIds oneIdResponse) := by
  refine (tracing_ids_agree_iff { type := .http } ['u'] Dict.empty absentIds ⟨['u'], ['u']⟩ oneIdResponse rfl generated_ids
    ⟨.responseStart 200 oneIdHeaders, by simp [oneIdResponse], rfl⟩).mpr ?_
  intro status headers listed
  have same : headers = oneIdHeaders := by
    simp only [oneIdResponse, List.mem_cons, reduceCtorEq, Message.responseStart.injEq, List.not_mem_nil, or_false] at listed
    exact listed.2
  subst same
  exact ⟨by decide, by decide⟩

theorem repeated_request_id_disagrees :
    ¬ ∀ (scope : Scope) (uuid : Str) (state : Dict Str Str) (context ids : TraceIds) (messages : List Message),
      scope.type = .http → traceIds scope.headers uuid = some ids → (∃ message ∈ messages, isStart message = true) →
      Agrees messages (serve scope uuid state context messages) := by
  intro claim
  have begins : ∃ message ∈ twoIdsResponse, isStart message = true := ⟨_, List.mem_singleton_self _, rfl⟩
  have served : (serve { type := .http } ['u'] Dict.empty absentIds twoIdsResponse).sent =
      (observeAll {} (twoIdsResponse.map (stamp ⟨['u'], ['u']⟩))).2 := by
    simp [serve, generated_ids]
  obtain ⟨_, requestId, correlationId, _, _, _, _, counted, lines, _⟩ :=
    claim { type := .http } ['u'] Dict.empty absentIds ⟨['u'], ['u']⟩ twoIdsResponse rfl generated_ids begins
  rw [served] at counted lines
  have leaves := starts_leave ⟨['u'], ['u']⟩ {} twoIdsResponse counted _ (List.mem_singleton_self _) rfl
  have one : (named headerName _).length = 1 := congrArg List.length (lines 200 _ leaves).1
  exact absurd one (by decide)

end Chassis.Tracing
