import Chassis.JsonDumps
import Chassis.Process
import Chassis.RateLimit
import Chassis.RequestLogging
import Chassis.SecurityStack
import Chassis.StampedHeaders

set_option autoImplicit false

namespace Chassis.Access

open Asgi Headers JsonText Process RateLimit RequestLogging Security Text Tracing

structure RequestScope extends HttpScope where
  queryString : Option QueryString := none

def RequestScope.logged (scope : RequestScope) : LoggedScope :=
  { type := scope.type, client := scope.client, path := scope.path, method := some scope.method
    queryString := scope.queryString, headers := scope.headers }

abbrev Handler := Coroutine Message Message Raised LogRecord
abbrev Trace := List (Event Message Message Raised LogRecord)

structure StackSettings where
  rateLimitEnabled : Bool
  rateLimit : RateLimitMiddleware
  logRedactHeaders : Bool
  securityHeadersEnabled : Bool
  security : SecurityHeadersMiddleware

-- What the layers read from outside during the request: the fresh id, the
-- seconds it takes, what the store answers, and the clock.
structure Readings where
  uuid : Str
  elapsed : Rat
  hit : Except Raised RateLimitDecision
  bodyTime : WallClock
  headerTime : Nat → WallClock

def unicodeEncodeError : Raised := .other "UnicodeEncodeError".toList

def decisionItems (decision : RateLimitDecision) (time : WallClock) : List (String × Str) :=
  (decisionHeaders decision time).map (fun line => (String.ofList line.1, line.2))

-- RateLimitMiddleware.send_wrapper; the state counts its readings of the clock.
def limitStart (decision : RateLimitDecision) (readings : Readings) (starts : Nat) :
    Message → Nat × Except Raised Message
  | .responseStart status headers =>
      match setAll (decisionItems decision (readings.headerTime starts)) headers with
      | none => (starts + 1, .error unicodeEncodeError)
      | some limited => (starts + 1, .ok (.responseStart status limited))
  | message => (starts, .ok message)

def counted (settings : StackSettings) (scope : RequestScope) : Bool :=
  scope.type = .http && scope.path.getD [] ∉ settings.rateLimit.exemptPaths

def rateLimitLayer (writer : ResponseWriter) (settings : StackSettings) (readings : Readings) (scope : RequestScope)
    (app : Handler) : Handler :=
  if scope.type ≠ .http then app
  else if scope.path.getD [] ∈ settings.rateLimit.exemptPaths then app
  else
    match readings.hit with
    | .error raised => .raises raised
    | .ok decision =>
        if decision.allowed = false then
          sendAll (writer.messages (rateLimitedResponse decision readings.bodyTime (readings.headerTime 0)))
        else wrap (limitStart decision readings) (fun _ ended => conclude ended) app 0

def requestIdLayer (readings : Readings) (scope : RequestScope) (app : Handler) : Handler :=
  if scope.type ≠ .http then app
  else
    match traceIds scope.headers readings.uuid with
    | none => .raises decodeError
    | some ids => wrap (fun (_ : Unit) message => ((), .ok (stamp ids message))) (fun _ ended => conclude ended) app ()

-- RequestLoggingMiddleware.send_wrapper
def observeStart (state : LogState) : Message → LogState × Except Raised Message
  | .responseStart status headers =>
      match noteStart status headers state with
      | (.error raised, noted) => (noted, .error raised)
      | (.ok (), noted) => (noted, .ok (.responseStart status headers))
  | message => (state, .ok message)

def requestLoggingLayer (settings : StackSettings) (readings : Readings) (scope : RequestScope) (app : Handler) : Handler :=
  if scope.type ≠ .http then app
  else
    -- finally: the record is logged however the app has ended.
    wrap observeStart (fun state ended =>
      .notes (logRecord settings.logRedactHeaders scope.logged state readings.elapsed) (conclude ended)) app {}

def securityLayer (settings : StackSettings) (scope : RequestScope) (app : Handler) : Handler :=
  if scope.type ≠ .http then app
  else
    wrap (fun (_ : Unit) message => ((),
      match Security.sendWrapper settings.security scope.toHttpScope message with
      | none => .error unicodeEncodeError
      | some secured => .ok secured)) (fun _ ended => conclude ended) app ()

-- FastAPIAppBuilder.setup_middleware: what is added later is outer.
def outerLayers (settings : StackSettings) (readings : Readings) (scope : RequestScope) (app : Handler) : Handler :=
  let logged := requestLoggingLayer settings readings scope (requestIdLayer readings scope app)
  if settings.securityHeadersEnabled then securityLayer settings scope logged else logged

def accessStack (writer : ResponseWriter) (settings : StackSettings) (readings : Readings) (scope : RequestScope)
    (app : Handler) : Handler :=
  outerLayers settings readings scope
    (if settings.rateLimitEnabled then rateLimitLayer writer settings readings scope app else app)

def Dressed (lines : List (Bytes × Bytes)) (message passed : Message) : Prop :=
  match message with
  | .responseStart status headers => ∃ dressed, passed = .responseStart status dressed ∧ Stamped lines headers dressed
  | _ => passed = message

def ProperMessage : Message → Prop
  | .responseStart _ headers => Proper headers
  | _ => True

def statusOf : Message → Option Nat
  | .responseStart status _ => some status
  | _ => none

def lastStatus (messages : List Message) : Option Nat := (messages.filterMap statusOf).getLast?

def secureLines (settings : StackSettings) (scope : RequestScope) : List (Bytes × Bytes) :=
  if settings.securityHeadersEnabled then (securityLines settings.security scope.toHttpScope).map lineOf else []

def decisionLines (decision : RateLimitDecision) (time : WallClock) : List (Bytes × Bytes) :=
  (decisionItems decision time).map lineOf

def Dresses (lines : List (Bytes × Bytes)) (message passed : Message) : Prop :=
  Dressed lines message passed ∧ ProperMessage passed

theorem dresses_trans (first second : List (Bytes × Bytes))
    (apart : ∀ one ∈ first, ∀ other ∈ second, lower other.1 ≠ lower one.1) (message middle passed : Message)
    (early : Dresses first message middle) (late : Dresses second middle passed) :
    Dresses (first ++ second) message passed := by
  refine ⟨?_, late.2⟩
  have started := early.1
  have ended := late.1
  cases message with
  | responseStart status headers =>
      obtain ⟨between, rfl, one⟩ := started
      obtain ⟨dressed, rfl, two⟩ := ended
      exact ⟨dressed, rfl, stamped_trans first second headers between dressed one two apart⟩
  | httpRequest body moreBody =>
      cases started
      exact ended
  | httpDisconnect =>
      cases started
      exact ended
  | responseBody body moreBody =>
      cases started
      exact ended
  | other type =>
      cases started
      exact ended

theorem dressed_status (lines : List (Bytes × Bytes)) (message passed : Message) (dressed : Dressed lines message passed) :
    statusOf message = statusOf passed := by
  cases message with
  | responseStart status headers =>
      obtain ⟨_, rfl, _⟩ := dressed
      rfl
  | _ => rw [show passed = _ from dressed]

section Limit

variable (decision : RateLimitDecision)

theorem decision_names (time : WallClock) : (decisionItems decision time).map Prod.fst =
    ["X-RateLimit-Limit", "X-RateLimit-Remaining", "X-RateLimit-Reset", "Retry-After"] := by
  simp [decisionItems, decisionHeaders]

theorem decision_names_distinct (time : WallClock) :
    ((decisionItems decision time).map (fun item => lower (ascii item.1))).Nodup := by
  have same : (decisionItems decision time).map (fun item => lower (ascii item.1)) =
      ((decisionItems decision time).map Prod.fst).map (fun name => lower (ascii name)) := by rw [List.map_map]; rfl
  rw [same, decision_names]
  decide

theorem decision_names_other (time : WallClock) : ∀ item ∈ decisionItems decision time, ¬ IsIdName (ascii item.1) := by
  intro item member
  have named : item.1 ∈ (decisionItems decision time).map Prod.fst := List.mem_map_of_mem member
  rw [decision_names] at named
  simp only [List.mem_cons, List.not_mem_nil, or_false] at named
  rcases named with same | same | same | same <;> rw [same] <;> decide

theorem decision_lines_distinct (time : WallClock) :
    ((decisionLines decision time).map (fun line => lower line.1)).Nodup := by
  have same : (decisionLines decision time).map (fun line => lower line.1) =
      (decisionItems decision time).map (fun item => lower (ascii item.1)) := by
    rw [decisionLines, List.map_map]
    apply List.map_congr_left
    intro item _
    exact lower_lower (ascii item.1)
  rw [same]
  exact decision_names_distinct decision time

end Limit

theorem stamp_dresses (ids : TraceIds) (message : Message) (proper : ProperMessage message) :
    Dresses (idLines ids) message (stamp ids message) := by
  cases message with
  | responseStart status headers =>
      obtain ⟨stamped, same, again, lines⟩ := stamp_proper ids status headers proper
      rw [same]
      exact ⟨⟨stamped, rfl, lines⟩, again⟩
  | httpRequest body moreBody => exact ⟨rfl, trivial⟩
  | httpDisconnect => exact ⟨rfl, trivial⟩
  | responseBody body moreBody => exact ⟨rfl, trivial⟩
  | other type => exact ⟨rfl, trivial⟩

theorem security_line_names (middleware : SecurityHeadersMiddleware) (scope : HttpScope) :
    ∀ line ∈ securityLines middleware scope, line.1 ∈ ["X-Content-Type-Options", "X-Frame-Options", "Referrer-Policy",
      "Permissions-Policy", "Cache-Control", "Content-Security-Policy", "Strict-Transport-Security"] := by
  intro line member
  simp only [securityLines, List.mem_append, List.mem_cons, List.not_mem_nil, or_false] at member
  rcases member with ((rfl | rfl | rfl | rfl | rfl) | given) | strict
  · simp
  · simp
  · simp
  · simp
  · simp
  · split at given
    · rw [List.mem_singleton.mp given]
      simp
    · cases given
  · split at strict
    · rw [List.mem_singleton.mp strict]
      simp
    · cases strict

theorem security_names_other (middleware : SecurityHeadersMiddleware) (scope : HttpScope) :
    ∀ line ∈ securityLines middleware scope, ¬ IsIdName (ascii line.1) := by
  intro line member
  have others : ∀ name ∈ ["X-Content-Type-Options", "X-Frame-Options", "Referrer-Policy", "Permissions-Policy",
      "Cache-Control", "Content-Security-Policy", "Strict-Transport-Security"], ¬ IsIdName (ascii name) := by decide
  exact others line.1 (security_line_names middleware scope line member)

theorem decision_apart_security (decision : RateLimitDecision) (time : WallClock) (middleware : SecurityHeadersMiddleware)
    (scope : HttpScope) : ∀ item ∈ decisionItems decision time, ∀ line ∈ securityLines middleware scope,
      lower (ascii line.1) ≠ lower (ascii item.1) := by
  intro item member line listed
  have named : item.1 ∈ (decisionItems decision time).map Prod.fst := List.mem_map_of_mem member
  rw [decision_names] at named
  have others : ∀ limited ∈ ["X-RateLimit-Limit", "X-RateLimit-Remaining", "X-RateLimit-Reset", "Retry-After"],
      ∀ secured ∈ ["X-Content-Type-Options", "X-Frame-Options", "Referrer-Policy", "Permissions-Policy",
        "Cache-Control", "Content-Security-Policy", "Strict-Transport-Security"],
      lower (ascii secured) ≠ lower (ascii limited) := by decide
  exact others item.1 named line.1 (security_line_names middleware scope line listed)

theorem secure_dresses (middleware : SecurityHeadersMiddleware) (scope : HttpScope) (encodable : Encodable middleware)
    (message : Message) (proper : ProperMessage message) :
    ∃ secured, Security.sendWrapper middleware scope message = some secured ∧
      Dresses ((securityLines middleware scope).map lineOf) message secured := by
  cases message with
  | responseStart status headers =>
      obtain ⟨secured, done⟩ := Option.isSome_iff_exists.mp
        ((set_all_some (securityLines middleware scope) headers).mpr ((security_lines_encode middleware scope).mpr encodable))
      obtain ⟨again, stamped⟩ := set_all_stamped _ headers secured proper (security_names_distinct middleware scope)
        (security_names_other middleware scope) done
      refine ⟨.responseStart status secured, ?_, ⟨secured, rfl, stamped⟩, again⟩
      rw [Security.sendWrapper, done]
      rfl
  | httpRequest body moreBody => exact ⟨_, rfl, rfl, trivial⟩
  | httpDisconnect => exact ⟨_, rfl, rfl, trivial⟩
  | responseBody body moreBody => exact ⟨_, rfl, rfl, trivial⟩
  | other type => exact ⟨_, rfl, rfl, trivial⟩

theorem headers_to_dict (headers : RawHeaders) : headersToDict headers = lowered headers := by
  rw [headersToDict, Dict.ofPairs, List.foldl_map]
  rfl

def Identified (ids : TraceIds) : Message → Prop
  | .responseStart _ headers =>
      named headerName headers = [utf8 ids.requestId] ∧ named correlationHeaderName headers = [utf8 ids.correlationId]
  | _ => True

theorem dressed_identified (ids : TraceIds) (message passed : Message) (dressed : Dressed (idLines ids) message passed) :
    Identified ids passed := by
  cases message with
  | responseStart status headers =>
      obtain ⟨stamped, rfl, lines⟩ := dressed
      exact ⟨lines.once _ (List.mem_cons_self ..), lines.once _ (List.mem_cons_of_mem _ (List.mem_cons_self ..))⟩
  | httpRequest body moreBody =>
      cases dressed
      trivial
  | httpDisconnect =>
      cases dressed
      trivial
  | responseBody body moreBody =>
      cases dressed
      trivial
  | other type =>
      cases dressed
      trivial

theorem observe_identified (ids : TraceIds) (state : LogState) (message : Message) (identified : Identified ids message) :
    observeStart state message = ((observeStart state message).1, .ok message) ∧
      (observeStart state message).1.statusCode = (statusOf message).getD state.statusCode ∧
      (isStart message = true → (observeStart state message).1.requestId = ids.requestId ∧
        (observeStart state message).1.correlationId = ids.correlationId) ∧
      (isStart message = false → (observeStart state message).1 = state) := by
  cases message with
  | responseStart status headers =>
      have request : (headersToDict headers).get (ascii "x-request-id") = some (utf8 ids.requestId) := by
        rw [headers_to_dict, show ascii "x-request-id" = lower headerName from by decide, lowered_get, identified.1]
        rfl
      have correlation : (headersToDict headers).get (ascii "x-correlation-id") = some (utf8 ids.correlationId) := by
        rw [headers_to_dict, show ascii "x-correlation-id" = lower correlationHeaderName from by decide, lowered_get,
          identified.2]
        rfl
      simp [observeStart, noteStart, request, correlation, decode_utf8, statusOf, isStart]
  | httpRequest body moreBody => exact ⟨rfl, rfl, fun starts => (Bool.false_ne_true starts).elim, fun _ => rfl⟩
  | httpDisconnect => exact ⟨rfl, rfl, fun starts => (Bool.false_ne_true starts).elim, fun _ => rfl⟩
  | responseBody body moreBody => exact ⟨rfl, rfl, fun starts => (Bool.false_ne_true starts).elim, fun _ => rfl⟩
  | other type => exact ⟨rfl, rfl, fun starts => (Bool.false_ne_true starts).elim, fun _ => rfl⟩

structure Noted (ids : TraceIds) (messages : List Message) (state : LogState) : Prop where
  status : state.statusCode = (lastStatus messages).getD 500
  ids : (state.requestId, state.correlationId) =
    if (lastStatus messages).isSome then (ids.requestId, ids.correlationId) else (['-'], ['-'])

theorem observe_all_noted (ids : TraceIds) (messages : List Message)
    (identified : ∀ message ∈ messages, Identified ids message) :
    Noted ids messages (messages.foldl (fun state message => (observeStart state message).1) {}) := by
  induction messages using List.reverseRecOn with
  | nil => exact ⟨rfl, rfl⟩
  | append_singleton earlier message ih =>
      have before := ih (fun other member => identified other (List.mem_append_left _ member))
      obtain ⟨_, status, named, kept⟩ := observe_identified ids (earlier.foldl (fun state message =>
        (observeStart state message).1) {}) message (identified message (by simp))
      rw [List.foldl_append]
      cases kind : statusOf message with
      | none =>
          have other : isStart message = false := by cases message <;> first | rfl | cases kind
          have same : lastStatus (earlier ++ [message]) = lastStatus earlier := by simp [lastStatus, kind]
          rw [List.foldl_cons, List.foldl_nil, kept other]
          exact ⟨same ▸ before.status, same ▸ before.ids⟩
      | some code =>
          have starts : isStart message = true := by cases message <;> first | rfl | cases kind
          have last : lastStatus (earlier ++ [message]) = some code := by simp [lastStatus, kind]
          obtain ⟨request, correlation⟩ := named starts
          rw [List.foldl_cons, List.foldl_nil]
          refine ⟨?_, ?_⟩
          · rw [status, kind, last]
            rfl
          · rw [request, correlation, last]
            rfl

section Layers

variable (settings : StackSettings) (readings : Readings) (scope : RequestScope) (ids : TraceIds)

theorem id_layer_dressed (http : scope.type = .http) (identified : traceIds scope.headers readings.uuid = some ids)
    (app : Handler) (trace : Trace) (outcome : Option Raised)
    (ran : Runs (requestIdLayer readings scope app) trace outcome) :
    ∃ inner, Runs app inner outcome ∧ ((∀ message ∈ sentMessages inner, ProperMessage message) →
      List.Forall₂ (Related (Dresses (idLines ids))) inner trace) := by
  rw [requestIdLayer, if_neg (not_not.mpr http), identified] at ran
  obtain ⟨inner, last, innerRan, through⟩ := wrap_concluded app () trace outcome ran
  refine ⟨inner, innerRan, fun proper => ?_⟩
  exact (passed_lockstep (fun state _ => state) ProperMessage (Dresses (idLines ids))
    (fun _ message fits => ⟨stamp ids message, rfl, stamp_dresses ids message fits⟩) () last inner trace through proper).1

theorem logging_layer_noted (http : scope.type = .http) (app : Handler) (trace : Trace) (outcome : Option Raised)
    (ran : Runs (requestLoggingLayer settings readings scope app) trace outcome) :
    ∃ inner, Runs app inner outcome ∧ ((∀ message ∈ sentMessages inner, Identified ids message) →
      ∃ state, trace = inner ++ [.noted (logRecord settings.logRedactHeaders scope.logged state readings.elapsed)] ∧
        Noted ids (sentMessages inner) state) := by
  rw [requestLoggingLayer, if_neg (not_not.mpr http)] at ran
  obtain ⟨inner, ended, last, outer, rest, innerRan, through, concluded, split⟩ := wrap_runs observeStart _ app {} trace
    outcome ran
  cases concluded with
  | notes record next later _ onward =>
      obtain ⟨rfl, rfl⟩ := conclude_runs ended outcome later onward
      refine ⟨inner, innerRan, fun identified => ⟨last, ?_, ?_⟩⟩
      · obtain ⟨same, _⟩ := passed_lockstep (fun state message => (observeStart state message).1) (Identified ids) Eq
          (fun state message known => ⟨message, (observe_identified ids state message known).1, rfl⟩) {} last inner outer
          through identified
        rw [split, related_eq inner outer same]
      · obtain ⟨_, folded⟩ := passed_lockstep (fun state message => (observeStart state message).1) (Identified ids) Eq
          (fun state message known => ⟨message, (observe_identified ids state message known).1, rfl⟩) {} last inner outer
          through identified
        rw [folded]
        exact observe_all_noted ids _ identified

theorem security_layer_dressed (http : scope.type = .http) (encodable : Encodable settings.security) (app : Handler)
    (trace : Trace) (outcome : Option Raised) (ran : Runs (securityLayer settings scope app) trace outcome) :
    ∃ inner, Runs app inner outcome ∧ ((∀ message ∈ sentMessages inner, ProperMessage message) →
      List.Forall₂ (Related (Dresses ((securityLines settings.security scope.toHttpScope).map lineOf))) inner trace) := by
  rw [securityLayer, if_neg (not_not.mpr http)] at ran
  obtain ⟨inner, last, innerRan, through⟩ := wrap_concluded app () trace outcome ran
  refine ⟨inner, innerRan, fun proper => ?_⟩
  apply (passed_lockstep (fun state _ => state) ProperMessage _ _ () last inner trace through proper).1
  intro _ message fits
  obtain ⟨secured, wrapped, dressed⟩ := secure_dresses settings.security scope.toHttpScope encodable message fits
  exact ⟨secured, by rw [wrapped], dressed⟩

theorem ids_apart_secure : ∀ one ∈ idLines ids, ∀ other ∈ secureLines settings scope, lower other.1 ≠ lower one.1 := by
  intro one member other found same
  unfold secureLines at found
  split at found
  · obtain ⟨line, inside, rfl⟩ := List.mem_map.mp found
    apply security_names_other settings.security scope.toHttpScope line inside
    rw [lineOf, lower_lower] at same
    simp only [idLines, List.mem_cons, List.not_mem_nil, or_false] at member
    rcases member with rfl | rfl
    · exact .inl same
    · exact .inr same
  · cases found

theorem outer_layers_dressed (http : scope.type = .http) (identified : traceIds scope.headers readings.uuid = some ids)
    (encodable : settings.securityHeadersEnabled = true → Encodable settings.security) (app : Handler) (trace : Trace)
    (outcome : Option Raised) (ran : Runs (outerLayers settings readings scope app) trace outcome) :
    ∃ inner, Runs app inner outcome ∧ ((∀ message ∈ sentMessages inner, ProperMessage message) →
      ∃ outer state, trace = outer ++ [.noted (logRecord settings.logRedactHeaders scope.logged state readings.elapsed)] ∧
        List.Forall₂ (Related (Dresses (idLines ids ++ secureLines settings scope))) inner outer ∧
        Noted ids (sentMessages inner) state) := by
  have logged (between : Trace) (loggedRan : Runs (requestLoggingLayer settings readings scope
      (requestIdLayer readings scope app)) between outcome) :
      ∃ inner, Runs app inner outcome ∧ ((∀ message ∈ sentMessages inner, ProperMessage message) →
        ∃ middle state, between = middle ++ [.noted (logRecord settings.logRedactHeaders scope.logged state readings.elapsed)] ∧
          List.Forall₂ (Related (Dresses (idLines ids))) inner middle ∧ Noted ids (sentMessages inner) state) := by
    obtain ⟨middle, middleRan, noted⟩ := logging_layer_noted settings readings scope ids http _ between outcome loggedRan
    obtain ⟨inner, innerRan, dressed⟩ := id_layer_dressed readings scope ids http identified app middle outcome middleRan
    refine ⟨inner, innerRan, fun proper => ?_⟩
    have stamped := dressed proper
    have known : ∀ message ∈ sentMessages middle, Identified ids message := by
      intro passed member
      obtain ⟨message, _, changed⟩ := related_sent _ inner middle stamped passed member
      exact dressed_identified ids message passed changed.1
    obtain ⟨state, split, noted⟩ := noted known
    have statuses : lastStatus (sentMessages inner) = lastStatus (sentMessages middle) := by
      apply congrArg List.getLast?
      apply related_same_sent (Dresses (idLines ids)) statusOf _ inner middle stamped
      intro message passed changed
      exact dressed_status _ message passed changed.1
    exact ⟨middle, state, split, stamped, statuses ▸ noted.status, statuses ▸ noted.ids⟩
  by_cases secured : settings.securityHeadersEnabled = true
  · rw [outerLayers, if_pos secured] at ran
    obtain ⟨between, betweenRan, dressed⟩ := security_layer_dressed settings scope http (encodable secured) _ trace outcome ran
    obtain ⟨inner, innerRan, rest⟩ := logged between betweenRan
    refine ⟨inner, innerRan, fun proper => ?_⟩
    obtain ⟨middle, state, split, stamped, noted⟩ := rest proper
    have stillProper : ∀ message ∈ sentMessages between, ProperMessage message := by
      intro passed member
      rw [split, sentMessages, List.filterMap_append, List.mem_append] at member
      have inside : passed ∈ sentMessages middle := member.resolve_right (fun last => by cases last)
      obtain ⟨message, _, changed⟩ := related_sent _ inner middle stamped passed inside
      exact changed.2
    have whole := dressed stillProper
    rw [split] at whole
    obtain ⟨outer, last, related⟩ := related_noted _ middle trace _ whole
    refine ⟨outer, state, last, ?_, noted⟩
    have lines : secureLines settings scope = (securityLines settings.security scope.toHttpScope).map lineOf := if_pos secured
    rw [lines]
    apply related_trans (Dresses (idLines ids)) _ _ _ inner middle outer stamped related
    intro message middle passed early late
    exact dresses_trans _ _ (lines ▸ ids_apart_secure settings scope ids) message middle passed early late
  · rw [outerLayers, if_neg secured] at ran
    obtain ⟨inner, innerRan, rest⟩ := logged trace ran
    refine ⟨inner, innerRan, fun proper => ?_⟩
    obtain ⟨middle, state, split, stamped, noted⟩ := rest proper
    have none : secureLines settings scope = [] := if_neg secured
    rw [none, List.append_nil]
    exact ⟨middle, state, split, stamped, noted⟩

def limitLines (time : WallClock) : List (Bytes × Bytes) :=
  if settings.rateLimitEnabled = true ∧ scope.path.getD [] ∉ settings.rateLimit.exemptPaths then
    match readings.hit with
    | .ok decision => decisionLines decision time
    | .error _ => []
  else []

theorem limit_apart (time : WallClock) : ∀ one ∈ limitLines settings readings scope time,
    ∀ other ∈ idLines ids ++ secureLines settings scope, lower other.1 ≠ lower one.1 := by
  intro one member other found same
  unfold limitLines at member
  split at member
  · split at member
    next decision hit =>
        obtain ⟨item, inside, rfl⟩ := List.mem_map.mp member
        rw [lineOf, lower_lower] at same
        cases List.mem_append.mp found with
        | inl isId =>
            apply decision_names_other decision time item inside
            simp only [idLines, List.mem_cons, List.not_mem_nil, or_false] at isId
            rcases isId with rfl | rfl
            · exact .inl same.symm
            · exact .inr same.symm
        | inr secure =>
            unfold secureLines at secure
            split at secure
            · obtain ⟨line, listed, rfl⟩ := List.mem_map.mp secure
              rw [lineOf, lower_lower] at same
              exact decision_apart_security decision time settings.security scope.toHttpScope item inside line listed same
            · cases secure
    · cases member
  · cases member

-- Starlette writes the given headers in lower case and adds the length and
-- the type of the content.
def WritesHeaders (writer : ResponseWriter) : Prop :=
  ∀ response, (∀ line ∈ response.headers, ∀ c ∈ line.1, c.toNat < 128) →
    ∃ extra, writer.rawHeaders response =
        response.headers.map (fun line => lineOf (String.ofList line.1, line.2)) ++ extra ∧
      ∀ line ∈ extra, line.1 = ascii "content-length" ∨ line.1 = ascii "content-type"

theorem rejection_headers (writer : ResponseWriter) (documented : WritesHeaders writer) (decision : RateLimitDecision)
    (bodyTime headerTime : WallClock) :
    Proper (writer.rawHeaders (rateLimitedResponse decision bodyTime headerTime)) ∧
      ∀ line ∈ decisionLines decision headerTime,
        named line.1 (writer.rawHeaders (rateLimitedResponse decision bodyTime headerTime)) = [line.2] := by
  have plain : ∀ name ∈ (decisionHeaders decision headerTime).map Prod.fst, ∀ c ∈ name, c.toNat < 128 := by
    intro name member c listed
    have checked : ((decisionHeaders decision headerTime).map Prod.fst).all
        (fun name => name.all (fun c => decide (c.toNat < 128))) = true := by
      simp only [decisionHeaders, List.map_cons, List.map_nil]
      decide
    exact of_decide_eq_true (List.all_eq_true.mp (List.all_eq_true.mp checked name member) c listed)
  obtain ⟨extra, written, others⟩ := documented (rateLimitedResponse decision bodyTime headerTime)
    (fun line member => plain line.1 (List.mem_map_of_mem member))
  have lines : (rateLimitedResponse decision bodyTime headerTime).headers.map
      (fun line => lineOf (String.ofList line.1, line.2)) = decisionLines decision headerTime := by
    rw [decisionLines, decisionItems, List.map_map]
    rfl
  rw [written, lines]
  have contentNames (line : Bytes × Bytes) (member : line ∈ extra) : lower line.1 = line.1 ∧ ¬ IsIdName line.1 ∧
      ∀ name ∈ ["X-RateLimit-Limit", "X-RateLimit-Remaining", "X-RateLimit-Reset", "Retry-After"],
        lower line.1 ≠ lower (lower (ascii name)) := by
    rcases others line member with same | same <;> rw [same] <;> decide
  have apart (item : String × Str) (inside : item ∈ decisionItems decision headerTime) :
      ∀ line ∈ extra, lower line.1 ≠ lower (lineOf item).1 := by
    intro line member
    have listed : item.1 ∈ (decisionItems decision headerTime).map Prod.fst := List.mem_map_of_mem inside
    rw [decision_names] at listed
    exact (contentNames line member).2.2 item.1 listed
  have own (line : Bytes × Bytes) (member : line ∈ decisionLines decision headerTime) :
      lower line.1 = line.1 ∧ ¬ IsIdName line.1 := by
    obtain ⟨item, inside, rfl⟩ := List.mem_map.mp member
    rw [lineOf, IsIdName, lower_lower]
    exact ⟨rfl, decision_names_other decision headerTime item inside⟩
  constructor
  · have noId (name : Bytes) (isId : IsIdName name) : named name (decisionLines decision headerTime ++ extra) = [] := by
      apply named_absent
      intro line member same
      cases List.mem_append.mp member with
      | inl inside => exact (own line inside).2 (by rw [IsIdName, same]; exact isId)
      | inr added => exact (contentNames line added).2.1 (by rw [IsIdName, same]; exact isId)
    refine ⟨?_, ?_⟩
    · intro line member
      cases List.mem_append.mp member with
      | inl inside => exact .inl (own line inside).1
      | inr added => exact .inl (contentNames line added).1
    · rw [Single, noId headerName (.inl rfl), noId correlationHeaderName (.inr rfl)]
      exact ⟨Nat.zero_le _, Nat.zero_le _⟩
  · intro line member
    obtain ⟨item, inside, rfl⟩ := List.mem_map.mp member
    rw [named_append, named_absent _ extra (apart item inside), List.append_nil]
    exact named_distinct _ (decision_lines_distinct decision headerTime) _ member

theorem two_sends (first second : Message) (trace : Trace) (outcome : Option Raised)
    (ran : Runs (sendAll [first, second]) trace outcome) :
    (outcome = none ∧ trace = [.sent first none, .sent second none]) ∨
      ∃ error, outcome = some error ∧
        (trace = [.sent first (some error)] ∨ trace = [.sent first none, .sent second (some error)]) := by
  rcases send_all_runs _ trace outcome ran with done | ⟨before, message, after, error, split, ended, rfl⟩
  · exact .inl done
  · cases before with
    | nil =>
        cases split
        exact .inr ⟨error, ended, .inl rfl⟩
    | cons head tail =>
        obtain ⟨rfl, later⟩ := List.cons.inj split
        cases tail with
        | nil =>
            cases later
            exact .inr ⟨error, ended, .inr rfl⟩
        | cons next more =>
            have short := congrArg List.length later
            simp at short

theorem dressed_start (lines : List (Bytes × Bytes)) (status : Nat) (headers : RawHeaders) (refusal : Option Raised)
    (rest outer : Trace)
    (related : List.Forall₂ (Related (Dresses lines)) (.sent (.responseStart status headers) refusal :: rest) outer) :
    ∃ dressed later, outer = .sent (.responseStart status dressed) refusal :: later ∧ Stamped lines headers dressed ∧
      List.Forall₂ (Related (Dresses lines)) rest later := by
  cases related with
  | cons first later =>
      cases first with
      | sent _ passed _ changed =>
          obtain ⟨dressed, rfl, stamped⟩ := changed.1
          exact ⟨dressed, _, rfl, stamped, later⟩

theorem dressed_body (lines : List (Bytes × Bytes)) (body : Option Bytes) (moreBody : Option Bool)
    (refusal : Option Raised) (outer : Trace)
    (related : List.Forall₂ (Related (Dresses lines)) [.sent (.responseBody body moreBody) refusal] outer) :
    outer = [.sent (.responseBody body moreBody) refusal] := by
  cases related with
  | cons first later =>
      cases later
      cases first with
      | sent _ passed _ changed => rw [show passed = _ from changed.1]

theorem rejected_request_observed (writer : ResponseWriter) (documented : WritesHeaders writer) (http : scope.type = .http)
    (identified : traceIds scope.headers readings.uuid = some ids)
    (encodable : settings.securityHeadersEnabled = true → Encodable settings.security)
    (enabled : settings.rateLimitEnabled = true) (counted : scope.path.getD [] ∉ settings.rateLimit.exemptPaths)
    (decision : RateLimitDecision) (hit : readings.hit = .ok decision) (rejected : decision.allowed = false)
    (app : Handler) (trace : Trace) (outcome : Option Raised)
    (ran : Runs (accessStack writer settings readings scope app) trace outcome) :
    let body := writer.render (rateLimitedResponse decision readings.bodyTime (readings.headerTime 0))
    ∃ headers record,
      (∀ line ∈ decisionLines decision (readings.headerTime 0) ++ (idLines ids ++ secureLines settings scope),
        named line.1 headers = [line.2]) ∧
      (record.httpStatusCode = 429 ∧ record.outcome = "client_error".toList ∧ record.requestId = ids.requestId ∧
        record.correlationId = ids.correlationId) ∧
      ((outcome = none ∧ trace =
          [.sent (.responseStart 429 headers) none, .sent (.responseBody (some body) none) none, .noted record]) ∨
        ∃ error, outcome = some error ∧
          (trace = [.sent (.responseStart 429 headers) (some error), .noted record] ∨
            trace = [.sent (.responseStart 429 headers) none, .sent (.responseBody (some body) none) (some error),
              .noted record])) := by
  intro body
  have layer : (if settings.rateLimitEnabled then rateLimitLayer writer settings readings scope app else app) =
      sendAll (writer.messages (rateLimitedResponse decision readings.bodyTime (readings.headerTime 0))) := by
    rw [if_pos enabled, rateLimitLayer, if_neg (not_not.mpr http), if_neg counted, hit]
    simp only [rejected, if_true]
  rw [accessStack, layer] at ran
  obtain ⟨inner, innerRan, onward⟩ := outer_layers_dressed settings readings scope ids http identified encodable _ trace
    outcome ran
  obtain ⟨proper, limited⟩ := rejection_headers writer documented decision readings.bodyTime (readings.headerTime 0)
  have sent := two_sends _ _ inner outcome innerRan
  have properSent : ∀ message ∈ sentMessages inner, ProperMessage message := by
    intro message member
    have listed : message ∈ writer.messages (rateLimitedResponse decision readings.bodyTime (readings.headerTime 0)) := by
      rcases sent with ⟨_, rfl⟩ | ⟨error, _, rfl | rfl⟩
      · exact member
      · exact List.mem_cons.mpr (.inl (List.mem_singleton.mp member))
      · exact member
    simp only [ResponseWriter.messages, List.mem_cons, List.not_mem_nil, or_false] at listed
    rcases listed with rfl | rfl
    · exact proper
    · trivial
  obtain ⟨outer, state, split, dressed, noted⟩ := onward properSent
  have lines (headers : RawHeaders) (stamped : Stamped (idLines ids ++ secureLines settings scope) (writer.rawHeaders
      (rateLimitedResponse decision readings.bodyTime (readings.headerTime 0))) headers) :
      ∀ line ∈ decisionLines decision (readings.headerTime 0) ++ (idLines ids ++ secureLines settings scope),
        named line.1 headers = [line.2] := by
    intro line member
    cases List.mem_append.mp member with
    | inr outerLine => exact stamped.once line outerLine
    | inl own =>
        have ownLine : line ∈ limitLines settings readings scope (readings.headerTime 0) := by
          rw [limitLines, if_pos ⟨enabled, counted⟩, hit]
          exact own
        rw [stamped.kept line.1 (fun other found => limit_apart settings readings scope ids _ line ownLine other found)]
        exact limited line own
  have record (last : lastStatus (sentMessages inner) = some 429) :
      (logRecord settings.logRedactHeaders scope.logged state readings.elapsed).httpStatusCode = 429 ∧
      (logRecord settings.logRedactHeaders scope.logged state readings.elapsed).outcome = "client_error".toList ∧
      (logRecord settings.logRedactHeaders scope.logged state readings.elapsed).requestId = ids.requestId ∧
      (logRecord settings.logRedactHeaders scope.logged state readings.elapsed).correlationId = ids.correlationId := by
    have status : state.statusCode = 429 := by rw [noted.status, last]; rfl
    have known := noted.ids
    rw [last, Option.isSome_some, if_pos rfl] at known
    obtain ⟨request, correlation⟩ := Prod.mk.inj known
    have class4 : outcomeFromStatus state.statusCode = "client_error".toList := by
      rw [status]
      rfl
    exact ⟨status, class4, request, correlation⟩
  rcases sent with ⟨ended, rfl⟩ | ⟨error, ended, rfl | rfl⟩
  · obtain ⟨headers, rest, rfl, stamped, later⟩ := dressed_start _ _ _ _ _ outer dressed
    have onlyBody := dressed_body _ _ _ _ rest later
    exact ⟨headers, _, lines headers stamped, record rfl, .inl ⟨ended, by rw [split, onlyBody]; rfl⟩⟩
  · obtain ⟨headers, rest, rfl, stamped, later⟩ := dressed_start _ _ _ _ _ outer dressed
    cases later
    exact ⟨headers, _, lines headers stamped, record rfl, .inr ⟨error, ended, .inl (by rw [split]; rfl)⟩⟩
  · obtain ⟨headers, rest, rfl, stamped, later⟩ := dressed_start _ _ _ _ _ outer dressed
    have onlyBody := dressed_body _ _ _ _ rest later
    exact ⟨headers, _, lines headers stamped, record rfl, .inr ⟨error, ended, .inr (by rw [split, onlyBody]; rfl)⟩⟩

end Layers

-- json.dumps in the compact form, for an object of strings and integers.
def scalarText : Json → Str
  | .str text => dumpsStr false text
  | .int value => intText value
  | _ => []

def objectText : Json → Str
  | .object members =>
      '{' :: join [','] (members.map (fun member => dumpsStr false member.1 ++ ':' :: scalarText member.2)) ++ ['}']
  | _ => []

def jsonWriter : ResponseWriter where
  rawHeaders := fun response =>
    response.headers.map (fun line => lineOf (String.ofList line.1, line.2)) ++
      [(ascii "content-length", utf8 (natText (utf8 (objectText response.content)).length)),
        (ascii "content-type", ascii "application/json")]
  render := fun response => utf8 (objectText response.content)

theorem json_writer_documented : WritesHeaders jsonWriter := by
  intro response _
  refine ⟨_, rfl, ?_⟩
  simp

def plainStack : StackSettings := ⟨true, behindTen, false, true, plainSettings.security⟩

def plainReadings (allowed : Bool) : Readings :=
  ⟨['u'], 1, .ok ⟨allowed, 100, 7, 60⟩, 30, fun _ => 31⟩

def plainRequest : RequestScope := { type := .http, path := some "/api/v1/me".toList }

def helloApp : Handler := sendAll [.responseStart 200 [], .responseBody (some (ascii "hello")) none]

theorem plain_identified (allowed : Bool) :
    traceIds plainRequest.headers (plainReadings allowed).uuid = some ⟨['u'], ['u']⟩ := by
  simp [plainRequest, plainReadings, traceIds, lowered, Dict.get, Dict.empty, decode_utf8]

theorem rejected_request_observed_one :
    let served := acceptedRun (.error .cancelled) (accessStack jsonWriter plainStack (plainReadings false) plainRequest helloApp)
    let body := jsonWriter.render (rateLimitedResponse ⟨false, 100, 7, 60⟩ 30 31)
    ∃ headers record,
      (∀ line ∈ decisionLines ⟨false, 100, 7, 60⟩ 31 ++ (idLines ⟨['u'], ['u']⟩ ++ secureLines plainStack plainRequest),
        named line.1 headers = [line.2]) ∧
      (record.httpStatusCode = 429 ∧ record.outcome = "client_error".toList ∧ record.requestId = ['u'] ∧
        record.correlationId = ['u']) ∧
      ((served.2 = none ∧ served.1 =
          [.sent (.responseStart 429 headers) none, .sent (.responseBody (some body) none) none, .noted record]) ∨
        ∃ error, served.2 = some error ∧
          (served.1 = [.sent (.responseStart 429 headers) (some error), .noted record] ∨
            served.1 = [.sent (.responseStart 429 headers) none, .sent (.responseBody (some body) none) (some error),
              .noted record])) :=
  rejected_request_observed plainStack (plainReadings false) plainRequest ⟨['u'], ['u']⟩ jsonWriter
    json_writer_documented rfl (plain_identified false) (fun _ => by decide) rfl (by decide) ⟨false, 100, 7, 60⟩ rfl rfl
    helloApp _ _ (accepted_runs _ _)

end Chassis.Access
