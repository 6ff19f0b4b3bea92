import Chassis.Timeout

set_option autoImplicit false

namespace Chassis.Timeout

open Asgi Transition

theorem call_some (writer : ResponseWriter) (middleware : TimeoutMiddleware) (scope : Scope) (moves : List Move)
    (stop : Stop) (served : Served) (http : scope.type = .http)
    (called : call writer middleware scope moves stop = some served) :
    ∃ state trace, Ledger trace state ∧ state.pending = none ∧
      served = ⟨attempts trace, abandonments trace,
        deliveries trace ++ (settle writer middleware scope state stop).1, state.expired,
        (settle writer middleware scope state stop).2⟩ := by
  unfold call at called
  cases ran : exec timeoutStep {} moves with
  | none => simp [ran] at called
  | some final =>
      obtain ⟨state, trace⟩ := final
      have ledger := exec_invariant timeoutStep Ledger ledger_step {} state [] trace moves ledger_start ran
      cases pending : state.pending with
      | some message => simp [ran, pending] at called
      | none =>
          refine ⟨state, trace, ledger, pending, ?_⟩
          simpa [ran, pending, ending, http, eq_comm] using called

theorem timeout_messages_phase (writer : ResponseWriter) (middleware : TimeoutMiddleware) (scope : Scope)
    (state : TimeoutState) (emitted : List Message) (started : state.responseStarted = emitted.any isStart)
    (completed : state.responseCompleted = emitted.any isLastBody) (regular : phaseOf emitted ≠ .malformed) :
    timeoutMessages writer middleware scope state =
      match phaseOf emitted with
      | .fresh => writer.messages (gatewayTimeoutResponse middleware scope)
      | .streaming => [closingBody]
      | _ => [] := by
  have flags := phase_flags emitted regular
  rw [timeoutMessages, started, completed]
  cases phase : phaseOf emitted with
  | fresh =>
      have unstarted : emitted.any isStart = false := by simpa [phase] using flags.1
      simp [unstarted]
  | streaming =>
      have seen : emitted.any isStart = true := flags.1.mpr (by simp [phase])
      have unfinished : emitted.any isLastBody = false := by simpa [phase] using flags.2
      simp [seen, unfinished]
  | complete =>
      have seen : emitted.any isStart = true := flags.1.mpr (by simp [phase])
      have finished : emitted.any isLastBody = true := flags.2.mpr phase
      simp [seen, finished]
  | malformed => exact absurd phase regular

theorem timeout_messages_complete (writer : ResponseWriter) (middleware : TimeoutMiddleware) (scope : Scope)
    (state : TimeoutState) (emitted delivered : List Message)
    (started : state.responseStarted = emitted.any isStart)
    (completed : state.responseCompleted = emitted.any isLastBody) (regular : phaseOf emitted ≠ .malformed)
    (same : phaseOf delivered = phaseOf emitted) :
    CompleteResponse (delivered ++ timeoutMessages writer middleware scope state) := by
  apply (complete_response_iff _).mpr
  rw [phase_append, same, timeout_messages_phase writer middleware scope state emitted started completed regular]
  cases phase : phaseOf emitted with
  | fresh => rfl
  | streaming => rfl
  | complete => rfl
  | malformed => exact absurd phase regular

theorem settle_returned (writer : ResponseWriter) (middleware : TimeoutMiddleware) (scope : Scope)
    (state : TimeoutState) : settle writer middleware scope state .returned = ([], .ok ()) := rfl

theorem settle_timed_out (writer : ResponseWriter) (middleware : TimeoutMiddleware) (scope : Scope)
    (state : TimeoutState) (expired : state.expired = true) :
    settle writer middleware scope state (.raised .cancelled) =
      (timeoutMessages writer middleware scope state, .ok ()) := by
  simp [settle, waitFor, expired]

theorem nothing_lost (trace : List TimeoutEvent) (state : TimeoutState) (ledger : Ledger trace state)
    (idle : state.pending = none) (atomic : abandonments trace = []) : deliveries trace = attempts trace := by
  obtain ⟨before, after, sum, order, _⟩ := ledger.accounted
  rw [idle, Option.toList_none, List.append_nil] at sum
  rw [atomic, List.append_nil] at order
  rw [sum, order]

theorem timeout_completes_response (writer : ResponseWriter) (middleware : TimeoutMiddleware) (scope : Scope)
    (moves : List Move) (stop : Stop) (served : Served) (http : scope.type = .http)
    (called : call writer middleware scope moves stop = some served) (atomic : served.lost = [])
    (emitted : ResponsePrefix served.emitted) :
    (stop = .returned → served.downstream = served.emitted ∧ served.outcome = .ok ()) ∧
    (served.expired = true → stop = .raised .cancelled →
      CompleteResponse served.downstream ∧ served.outcome = .ok () ∧
      (served.emitted.any isStart = false →
        served.downstream = writer.messages (gatewayTimeoutResponse middleware scope)) ∧
      (served.emitted.any isStart = true → served.emitted.any isLastBody = false →
        served.downstream = served.emitted ++ [closingBody]) ∧
      (served.emitted.any isLastBody = true → served.downstream = served.emitted)) := by
  obtain ⟨state, trace, ledger, idle, same⟩ := call_some writer middleware scope moves stop served http called
  subst same
  have delivered := nothing_lost trace state ledger idle atomic
  have regular := response_prefix_phase _ emitted
  simp only [delivered]
  constructor
  · intro returned
    rw [returned, settle_returned, List.append_nil]
    exact ⟨rfl, rfl⟩
  · intro expired cancelled
    have flags := phase_flags (attempts trace) regular
    have branch := timeout_messages_phase writer middleware scope state _ ledger.started ledger.completed regular
    rw [cancelled, settle_timed_out writer middleware scope state expired]
    refine ⟨?_, rfl, ?_, ?_, ?_⟩
    · exact timeout_messages_complete writer middleware scope state _ _ ledger.started ledger.completed regular rfl
    · intro unstarted
      have fresh : phaseOf (attempts trace) = .fresh := by
        by_contra later
        rw [flags.1.mpr later] at unstarted
        cases unstarted
      rw [branch, fresh, fresh_empty _ fresh]
      rfl
    · intro seen unfinished
      simp [timeoutMessages, ledger.started, ledger.completed, seen, unfinished]
    · intro finished
      rw [branch, flags.2.mp finished, List.append_nil]

def lateStart : List Move := [.deadline, .emit (.responseStart 200 []), .deliver]
def startOnly : List Move := [.emit (.responseStart 200 []), .deliver]
def thirtySeconds : TimeoutMiddleware := ⟨"30".toList⟩
def emptyWriter : ResponseWriter := ⟨fun _ => [], fun _ => []⟩

theorem timeout_completes_response_late :
    CompleteResponse [.responseStart 200 [], closingBody] := by
  have emitted : ResponsePrefix [.responseStart 200 []] :=
    ⟨[.responseBody none none], (complete_response_iff _).mpr rfl⟩
  exact ((timeout_completes_response emptyWriter thirtySeconds { type := .http } lateStart (.raised .cancelled) _ rfl
    rfl rfl emitted).2 rfl rfl).1

theorem timed_out_without_gateway_response :
    (∃ served, call emptyWriter thirtySeconds { type := .http } lateStart (.raised .cancelled) = some served ∧
      served.downstream = [.responseStart 200 [], closingBody] ∧
      served.downstream ≠ emptyWriter.messages (gatewayTimeoutResponse thirtySeconds { type := .http })) ∧
    ∃ served, call emptyWriter thirtySeconds { type := .http } startOnly .returned = some served ∧
      ResponsePrefix served.emitted ∧ ¬ CompleteResponse served.downstream := by
  constructor
  · refine ⟨_, rfl, rfl, ?_⟩
    intro same
    have heads : some (Message.responseStart 200 []) = some (Message.responseStart 504 []) := congrArg List.head? same
    simp at heads
  · refine ⟨_, rfl, ⟨[.responseBody none none], (complete_response_iff _).mpr rfl⟩, ?_⟩
    intro complete
    cases (complete_response_iff _).mp complete

-- How a call of the app ends that means to send a whole response: it returns
-- having emitted all of it, or the passed deadline stops it anywhere.
def MeansResponse (stop : Stop) (served : Served) : Prop :=
  (stop = .returned ∧ CompleteResponse served.emitted) ∨
    (stop = .raised .cancelled ∧ served.expired = true ∧ ResponsePrefix served.emitted)

theorem means_regular (stop : Stop) (served : Served) (means : MeansResponse stop served) :
    phaseOf served.emitted ≠ .malformed := by
  cases means with
  | inl whole =>
      rw [(complete_response_iff _).mp whole.2]
      simp
  | inr part => exact response_prefix_phase _ part.2.2

theorem same_phase_complete (writer : ResponseWriter) (middleware : TimeoutMiddleware) (scope : Scope) (stop : Stop)
    (state : TimeoutState) (trace : List TimeoutEvent) (ledger : Ledger trace state)
    (means : MeansResponse stop ⟨attempts trace, abandonments trace,
      deliveries trace ++ (settle writer middleware scope state stop).1, state.expired,
      (settle writer middleware scope state stop).2⟩)
    (same : phaseOf (deliveries trace) = phaseOf (attempts trace)) :
    CompleteResponse (deliveries trace ++ (settle writer middleware scope state stop).1) := by
  have regular := means_regular stop _ means
  cases means with
  | inl whole =>
      rw [whole.1, settle_returned, List.append_nil]
      apply (complete_response_iff _).mpr
      rw [same]
      exact (complete_response_iff _).mp whole.2
  | inr part =>
      rw [part.1, settle_timed_out writer middleware scope state part.2.1]
      exact timeout_messages_complete writer middleware scope state _ _ ledger.started ledger.completed regular same

theorem settle_after_start (writer : ResponseWriter) (middleware : TimeoutMiddleware) (scope : Scope) (stop : Stop)
    (state : TimeoutState) (started : state.responseStarted = true) :
    (settle writer middleware scope state stop).1 = [] ∨ (settle writer middleware scope state stop).1 = [closingBody] := by
  unfold settle
  cases waitFor state.expired stop with
  | ok done => exact .inl rfl
  | error raised =>
      cases raised with
      | timeout => cases completed : state.responseCompleted <;> simp [timeoutMessages, started, completed]
      | requestTooLarge => exact .inl rfl
      | cancelled => exact .inl rfl
      | other name => exact .inl rfl

theorem settle_after_last (writer : ResponseWriter) (middleware : TimeoutMiddleware) (scope : Scope) (stop : Stop)
    (state : TimeoutState) (started : state.responseStarted = true) (completed : state.responseCompleted = true) :
    (settle writer middleware scope state stop).1 = [] := by
  unfold settle
  cases waitFor state.expired stop with
  | ok done => rfl
  | error raised =>
      cases raised with
      | timeout => simp [timeoutMessages, started, completed]
      | requestTooLarge => rfl
      | cancelled => rfl
      | other name => rfl

theorem lost_start_incomplete (writer : ResponseWriter) (middleware : TimeoutMiddleware) (scope : Scope) (stop : Stop)
    (state : TimeoutState) (message : Message) (after : List Message) (started : state.responseStarted = true)
    (regular : phaseOf (message :: after) ≠ .malformed) :
    ¬ CompleteResponse (after ++ (settle writer middleware scope state stop).1) := by
  intro complete
  have seen := complete_starts _ complete
  rw [List.any_append, single_start message after regular] at seen
  cases settle_after_start writer middleware scope stop state started with
  | inl none => simp [none] at seen
  | inr closing => simp [closing, closingBody, isStart] at seen

theorem delivered_complete_iff (writer : ResponseWriter) (middleware : TimeoutMiddleware) (scope : Scope)
    (moves : List Move) (stop : Stop) (served : Served) (http : scope.type = .http)
    (called : call writer middleware scope moves stop = some served) (means : MeansResponse stop served) :
    CompleteResponse served.downstream ↔
      ∀ message ∈ served.lost, isStart message = false ∧ isLastBody message = false := by
  obtain ⟨state, trace, ledger, idle, same⟩ := call_some writer middleware scope moves stop served http called
  subst same
  have regular := means_regular stop _ means
  obtain ⟨before, after, sum, order, single⟩ := ledger.accounted
  rw [idle, Option.toList_none, List.append_nil] at sum
  cases lost : abandonments trace with
  | nil =>
      have delivered := nothing_lost trace state ledger idle lost
      have complete := same_phase_complete writer middleware scope stop state trace ledger means (by rw [delivered])
      simp [complete]
  | cons message others =>
      have alone : others = [] := by
        rw [lost] at single
        exact List.length_eq_zero_iff.mp (by simpa using single)
      rw [lost, alone, List.append_assoc, List.singleton_append] at order
      simp only [order] at regular
      have started (flag : isStart message = true) : state.responseStarted = true := by
        rw [ledger.started, order]
        simp [flag]
      simp only [alone, List.mem_singleton, forall_eq]
      constructor
      · intro complete
        constructor
        · by_contra start
          have flag : isStart message = true := by simpa using start
          have first := start_first before after message regular flag
          rw [first, List.nil_append] at sum regular
          rw [sum] at complete
          exact lost_start_incomplete writer middleware scope stop state message after (started flag) regular complete
        · by_contra last
          have flag : isLastBody message = true := by simpa using last
          obtain ⟨empty, streaming⟩ := last_ends before after message regular flag
          have flags := phase_flags before (by simp [streaming])
          have seen : state.responseStarted = true := by
            rw [ledger.started, order, List.any_append, flags.1.mpr (by simp [streaming]), Bool.true_or]
          have done : state.responseCompleted = true := by
            rw [ledger.completed, order]
            simp [flag]
          rw [sum, empty, List.append_nil, settle_after_last writer middleware scope stop state seen done,
            List.append_nil] at complete
          rw [(complete_response_iff _).mp complete] at streaming
          cases streaming
      · intro neither
        apply same_phase_complete writer middleware scope stop state trace ledger means
        rw [sum, order]
        exact dropped_same_phase before after message regular neither.1 neither.2

def blockedStart : List Move := [.emit (.responseStart 200 []), .deadline]

theorem delivered_complete_iff_blocked :
    CompleteResponse [closingBody] ↔
      ∀ message ∈ [Message.responseStart 200 []], isStart message = false ∧ isLastBody message = false := by
  have emitted : ResponsePrefix [.responseStart 200 []] :=
    ⟨[.responseBody none none], (complete_response_iff _).mpr rfl⟩
  exact delivered_complete_iff emptyWriter thirtySeconds { type := .http } blockedStart (.raised .cancelled) _ rfl rfl
    (.inr ⟨rfl, rfl, emitted⟩)

theorem blocked_start_leaves_lone_body :
    ∃ served, call emptyWriter thirtySeconds { type := .http } blockedStart (.raised .cancelled) = some served ∧
      MeansResponse (.raised .cancelled) served ∧ served.downstream = [closingBody] ∧
      ¬ CompleteResponse served.downstream := by
  refine ⟨_, rfl, .inr ⟨rfl, rfl, [.responseBody none none], (complete_response_iff _).mpr rfl⟩, rfl, ?_⟩
  intro complete
  cases (complete_response_iff _).mp complete

end Chassis.Timeout
