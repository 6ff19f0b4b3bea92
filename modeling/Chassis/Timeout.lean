import Chassis.Response
import Chassis.Transition

set_option autoImplicit false

namespace Chassis.Timeout

open Asgi Text Transition

-- The timeout is kept as str(self.timeout) writes it.
structure TimeoutMiddleware where
  timeout : Str

-- While the app runs: the two flags of send_wrapper, the message whose
-- downstream send is awaited, and whether the deadline has passed.
structure TimeoutState where
  responseStarted : Bool := false
  responseCompleted : Bool := false
  pending : Option Message := none
  expired : Bool := false

-- The app calls send_wrapper, a downstream send takes effect, the deadline
-- passes. The deadline cancels the app, and with it a send that it awaits.
inductive Move where
  | emit (message : Message)
  | deliver
  | deadline

inductive TimeoutEvent where
  | attempted (message : Message)
  | delivered (message : Message)
  | abandoned (message : Message)

def sendWrapper (state : TimeoutState) (message : Message) : TimeoutState :=
  { state with
    responseStarted := state.responseStarted || isStart message
    responseCompleted := state.responseCompleted || isLastBody message
    pending := some message }

def timeoutStep (state : TimeoutState) (move : Move) : Option (TimeoutState × List TimeoutEvent) :=
  match move, state.pending with
  | .emit message, none => some (sendWrapper state message, [.attempted message])
  | .deliver, some message => some ({ state with pending := none }, [.delivered message])
  | .deadline, none => if state.expired then none else some ({ state with expired := true }, [])
  | .deadline, some message =>
      if state.expired then none
      else some ({ state with expired := true, pending := none }, [.abandoned message])
  | _, _ => none

inductive Stop where
  | returned
  | raised (error : Raised)
deriving DecidableEq

-- asyncio.wait_for: the cancellation of a passed deadline comes out as a
-- TimeoutError, any other ending as it is.
def waitFor (expired : Bool) : Stop → Except Raised Unit
  | .returned => .ok ()
  | .raised .cancelled => .error (if expired then .timeout else .cancelled)
  | .raised error => .error error

def closingBody : Message := .responseBody (some []) (some false)

def gatewayTimeoutResponse (middleware : TimeoutMiddleware) (scope : Scope) : JsonResponse :=
  { statusCode := 504
    content := .object
      [("error".toList, Json.text "gateway_timeout"),
        ("detail".toList, .str ("Request processing exceeded ".toList ++ middleware.timeout ++ "s limit".toList)),
        ("path".toList, .str (getSanitizedScopePath scope))] }

-- The branch for TimeoutError.
def timeoutMessages (writer : ResponseWriter) (middleware : TimeoutMiddleware) (scope : Scope)
    (state : TimeoutState) : List Message :=
  if state.responseStarted then if state.responseCompleted then [] else [closingBody]
  else writer.messages (gatewayTimeoutResponse middleware scope)

@[simp] def TimeoutEvent.attempt : TimeoutEvent → Option Message
  | .attempted message => some message
  | _ => none

@[simp] def TimeoutEvent.delivery : TimeoutEvent → Option Message
  | .delivered message => some message
  | _ => none

@[simp] def TimeoutEvent.abandonment : TimeoutEvent → Option Message
  | .abandoned message => some message
  | _ => none

def attempts (trace : List TimeoutEvent) : List Message := trace.filterMap TimeoutEvent.attempt

def deliveries (trace : List TimeoutEvent) : List Message := trace.filterMap TimeoutEvent.delivery

def abandonments (trace : List TimeoutEvent) : List Message := trace.filterMap TimeoutEvent.abandonment

structure Served where
  emitted : List Message
  lost : List Message
  downstream : List Message
  expired : Bool
  outcome : Except Raised Unit

def settle (writer : ResponseWriter) (middleware : TimeoutMiddleware) (scope : Scope) (state : TimeoutState)
    (stop : Stop) : List Message × Except Raised Unit :=
  match waitFor state.expired stop with
  | .error .timeout => (timeoutMessages writer middleware scope state, .ok ())
  | result => ([], result)

-- Other scopes go to the app as they are, without a deadline.
def ending (writer : ResponseWriter) (middleware : TimeoutMiddleware) (scope : Scope) (state : TimeoutState)
    (stop : Stop) : Option (List Message × Except Raised Unit) :=
  if scope.type = .http then some (settle writer middleware scope state stop)
  else if state.expired then none
  else some ([], waitFor false stop)

def call (writer : ResponseWriter) (middleware : TimeoutMiddleware) (scope : Scope) (moves : List Move)
    (stop : Stop) : Option Served :=
  match exec timeoutStep {} moves with
  | none => none
  | some (state, trace) =>
      match state.pending, ending writer middleware scope state stop with
      | none, some (own, outcome) =>
          some ⟨attempts trace, abandonments trace, deliveries trace ++ own, state.expired, outcome⟩
      | _, _ => none

structure Ledger (trace : List TimeoutEvent) (state : TimeoutState) : Prop where
  started : state.responseStarted = (attempts trace).any isStart
  completed : state.responseCompleted = (attempts trace).any isLastBody
  unexpired : state.expired = false → abandonments trace = []
  accounted : ∃ before after, deliveries trace ++ state.pending.toList = before ++ after ∧
    attempts trace = before ++ abandonments trace ++ after ∧ (abandonments trace).length ≤ 1

@[simp] theorem attempts_snoc (past : List TimeoutEvent) (event : TimeoutEvent) :
    attempts (past ++ [event]) = attempts past ++ event.attempt.toList := by
  cases event <;> simp [attempts]

@[simp] theorem deliveries_snoc (past : List TimeoutEvent) (event : TimeoutEvent) :
    deliveries (past ++ [event]) = deliveries past ++ event.delivery.toList := by
  cases event <;> simp [deliveries]

@[simp] theorem abandonments_snoc (past : List TimeoutEvent) (event : TimeoutEvent) :
    abandonments (past ++ [event]) = abandonments past ++ event.abandonment.toList := by
  cases event <;> simp [abandonments]

theorem ledger_start : Ledger [] {} :=
  ⟨rfl, rfl, fun _ => rfl, [], [], rfl, rfl, Nat.zero_le _⟩

theorem ledger_step (past : List TimeoutEvent) (state : TimeoutState) (move : Move) (next : TimeoutState)
    (events : List TimeoutEvent) (ledger : Ledger past state) (stepped : timeoutStep state move = some (next, events)) :
    Ledger (past ++ events) next := by
  obtain ⟨before, after, sum, order, single⟩ := ledger.accounted
  cases move with
  | emit message =>
      cases pending : state.pending with
      | some waiting => simp [timeoutStep, pending] at stepped
      | none =>
          simp only [timeoutStep, pending, Option.some.injEq, Prod.mk.injEq] at stepped
          obtain ⟨rfl, rfl⟩ := stepped
          rw [pending, Option.toList_none, List.append_nil] at sum
          refine ⟨?_, ?_, ?_, before, after ++ [message], ?_, ?_, ?_⟩
          · simp [sendWrapper, ledger.started]
          · simp [sendWrapper, ledger.completed]
          · simpa [sendWrapper] using ledger.unexpired
          · simp [sendWrapper, sum]
          · simp [order]
          · simpa using single
  | deliver =>
      cases pending : state.pending with
      | none => simp [timeoutStep, pending] at stepped
      | some message =>
          simp only [timeoutStep, pending, Option.some.injEq, Prod.mk.injEq] at stepped
          obtain ⟨rfl, rfl⟩ := stepped
          rw [pending, Option.toList_some] at sum
          refine ⟨?_, ?_, ?_, before, after, ?_, ?_, ?_⟩
          · simpa using ledger.started
          · simpa using ledger.completed
          · simpa using ledger.unexpired
          · simpa using sum
          · simpa using order
          · simpa using single
  | deadline =>
      by_cases expired : state.expired = true
      · cases pending : state.pending <;> simp [timeoutStep, pending, expired] at stepped
      · have kept := ledger.unexpired (by simpa using expired)
        cases pending : state.pending with
        | none =>
            simp only [timeoutStep, pending, if_neg expired, Option.some.injEq, Prod.mk.injEq] at stepped
            obtain ⟨rfl, rfl⟩ := stepped
            rw [List.append_nil]
            rw [pending] at sum
            exact ⟨ledger.started, ledger.completed, fun _ => kept, before, after, sum, order, single⟩
        | some message =>
            simp only [timeoutStep, pending, if_neg expired, Option.some.injEq, Prod.mk.injEq] at stepped
            obtain ⟨rfl, rfl⟩ := stepped
            rw [pending, Option.toList_some] at sum
            rw [kept, List.append_nil, ← sum] at order
            refine ⟨?_, ?_, by simp, deliveries past, [], ?_, ?_, ?_⟩
            · simpa using ledger.started
            · simpa using ledger.completed
            · simp
            · simpa [kept] using order
            · simp [kept]

end Chassis.Timeout
