import Chassis.TimeoutDelivery
import Mathlib.Algebra.Order.Field.Rat

set_option autoImplicit false

namespace Chassis.Timeout

open Asgi Transition

def Served.own (served : Served) : List Message :=
  served.downstream.drop (served.emitted.length - served.lost.length)

-- The moves with the seconds that have passed since the call began; the
-- deadline is not early.
def Timely (timeout : Rat) (moves : List (Rat × Move)) (stopTime : Rat) : Prop :=
  ∀ timed ∈ moves, timed.1 ≤ stopTime ∧ (timed.2 = .deadline → timeout ≤ timed.1)

theorem expired_by_deadline (state final : TimeoutState) (moves : List Move) (trace : List TimeoutEvent)
    (ran : exec timeoutStep state moves = some (final, trace)) (expired : final.expired = true) :
    state.expired = true ∨ .deadline ∈ moves := by
  induction moves generalizing state trace with
  | nil =>
      cases ran
      exact .inl expired
  | cons move rest ih =>
      obtain ⟨next, events, later, stepped, continued, _⟩ := exec_cons timeoutStep state final move rest trace ran
      cases ih next later continued with
      | inr found => exact .inr (List.mem_cons_of_mem _ found)
      | inl already =>
          cases move with
          | deadline => exact .inr (by simp)
          | emit message =>
              cases pending : state.pending <;> simp [timeoutStep, pending] at stepped
              rw [← stepped.1] at already
              exact .inl already
          | deliver =>
              cases pending : state.pending <;> simp [timeoutStep, pending] at stepped
              rw [← stepped.1] at already
              exact .inl already

theorem deliveries_length (trace : List TimeoutEvent) (state : TimeoutState) (ledger : Ledger trace state)
    (idle : state.pending = none) :
    (deliveries trace).length = (attempts trace).length - (abandonments trace).length := by
  obtain ⟨before, after, sum, order, _⟩ := ledger.accounted
  rw [idle, Option.toList_none, List.append_nil] at sum
  rw [sum, order]
  simp only [List.length_append]
  omega

theorem call_ends (writer : ResponseWriter) (middleware : TimeoutMiddleware) (scope : Scope) (moves : List Move)
    (stop : Stop) (served : Served) (called : call writer middleware scope moves stop = some served) :
    ∃ state trace, exec timeoutStep {} moves = some (state, trace) ∧
      ending writer middleware scope state stop = some (served.own, served.outcome) := by
  unfold call at called
  cases ran : exec timeoutStep {} moves with
  | none => simp [ran] at called
  | some final =>
      obtain ⟨state, trace⟩ := final
      have ledger := exec_invariant timeoutStep Ledger ledger_step {} state [] trace moves ledger_start ran
      cases pending : state.pending with
      | some message => simp [ran, pending] at called
      | none =>
          cases ended : ending writer middleware scope state stop with
          | none => simp [ran, pending, ended] at called
          | some result =>
              simp only [ran, pending, ended, Option.some.injEq] at called
              have added : served.own = result.1 := by
                rw [← called, Served.own, ← deliveries_length trace state ledger pending, List.drop_left]
              exact ⟨state, trace, rfl, by rw [ended, added, ← called]⟩

theorem early_unexpired (timeout : Rat) (moves : List (Rat × Move)) (stopTime : Rat)
    (timely : Timely timeout moves stopTime) (state : TimeoutState) (trace : List TimeoutEvent)
    (ran : exec timeoutStep {} (moves.map Prod.snd) = some (state, trace)) (early : stopTime < timeout) :
    state.expired = false := by
  by_contra expired
  cases expired_by_deadline {} state _ trace ran (by simpa using expired) with
  | inl already => cases already
  | inr member =>
      obtain ⟨timed, found, deadline⟩ := List.mem_map.mp member
      have bounds := timely timed found
      exact absurd (le_trans (bounds.2 deadline) bounds.1) (not_le.mpr early)

theorem unexpired_ending (writer : ResponseWriter) (middleware : TimeoutMiddleware) (scope : Scope)
    (state : TimeoutState) (stop : Stop) (unexpired : state.expired = false)
    (cause : ¬ (scope.type = .http ∧ stop = .raised .timeout)) :
    ending writer middleware scope state stop = some ([], waitFor false stop) := by
  by_cases http : scope.type = .http
  · have other : stop ≠ .raised .timeout := fun same => cause ⟨http, same⟩
    rw [ending, if_pos http, settle, unexpired]
    cases stop with
    | returned => rfl
    | raised error =>
        cases error with
        | timeout => exact absurd rfl other
        | requestTooLarge => rfl
        | cancelled => rfl
        | other name => rfl
  · simp [ending, http, unexpired]

theorem wait_for_raised (error : Raised) : waitFor false (.raised error) = .error error := by
  cases error <;> rfl

theorem only_deadline_times_out_iff (writer : ResponseWriter) (middleware : TimeoutMiddleware) (scope : Scope)
    (timeout : Rat) (moves : List (Rat × Move)) (stop : Stop) (stopTime : Rat) (served : Served)
    (timely : Timely timeout moves stopTime)
    (called : call writer middleware scope (moves.map Prod.snd) stop = some served) :
    ((∀ error, stop = .raised error → stopTime < timeout → served.own = [] ∧ served.outcome = .error error) ∧
      (served.own ≠ [] → timeout ≤ stopTime)) ↔
    ¬ (scope.type = .http ∧ stop = .raised .timeout ∧ stopTime < timeout) := by
  obtain ⟨state, trace, ran, ended⟩ := call_ends writer middleware scope _ stop served called
  have unexpired (early : stopTime < timeout) : state.expired = false :=
    early_unexpired timeout moves stopTime timely state trace ran early
  constructor
  · intro law caught
    obtain ⟨http, raised, early⟩ := caught
    have propagated := (law.1 .timeout raised early).2
    rw [ending, if_pos http, raised, settle, unexpired early] at ended
    simp only [waitFor, Option.some.injEq, Prod.mk.injEq] at ended
    rw [← ended.2] at propagated
    cases propagated
  · intro cause
    have quiet (early : stopTime < timeout) : served.own = [] ∧ served.outcome = waitFor false stop := by
      have plain := unexpired_ending writer middleware scope state stop (unexpired early)
        (fun both => cause ⟨both.1, both.2, early⟩)
      rw [ended, Option.some.injEq, Prod.mk.injEq] at plain
      exact plain
    constructor
    · intro error raised early
      have both := quiet early
      rw [raised, wait_for_raised] at both
      exact both
    · intro added
      by_contra late
      exact added (quiet (not_le.mp late)).1

def ownTimeout : Stop := .raised .timeout
def earlyStart : List (Rat × Move) := [(0, .emit (.responseStart 200 [])), (0, .deliver)]
def ownAnswered : Served :=
  ⟨[], [], emptyWriter.messages (gatewayTimeoutResponse thirtySeconds { type := .http }), false, .ok ()⟩

theorem only_deadline_times_out_iff_own :
    ((∀ error, ownTimeout = .raised error → (1 : Rat) < 30 → ownAnswered.own = [] ∧ ownAnswered.outcome = .error error) ∧
      (ownAnswered.own ≠ [] → (30 : Rat) ≤ 1)) ↔
    ¬ (ScopeType.http = .http ∧ ownTimeout = .raised .timeout ∧ (1 : Rat) < 30) :=
  only_deadline_times_out_iff emptyWriter thirtySeconds { type := .http } 30 [] ownTimeout 1 ownAnswered
    (by simp [Timely]) rfl

theorem own_timeout_answered :
    (call emptyWriter thirtySeconds { type := .http } [] ownTimeout = some ownAnswered ∧
      ownAnswered.own = emptyWriter.messages (gatewayTimeoutResponse thirtySeconds { type := .http }) ∧
      ownAnswered.outcome = .ok ()) ∧
    ∃ served, Timely 30 earlyStart 1 ∧
      call emptyWriter thirtySeconds { type := .http } (earlyStart.map Prod.snd) ownTimeout = some served ∧
      served.own = [closingBody] ∧ served.outcome = .ok () := by
  refine ⟨⟨rfl, rfl, rfl⟩, _, ?_, rfl, rfl, rfl⟩
  intro timed member
  simp only [earlyStart, List.mem_cons, List.not_mem_nil, or_false] at member
  rcases member with rfl | rfl <;> simp

end Chassis.Timeout
