import Chassis.BodySize
import Chassis.Response

set_option autoImplicit false

namespace Chassis.BodySize

open Asgi Text

def SingleResponse (messages : List Message) : Prop :=
  (messages.filter isStart).length ≤ 1 ∧
    ∀ before last after, messages = before ++ last :: after → isLastBody last = true → after = []

def Unanswered (messages : List Message) : Prop :=
  ∀ message ∈ messages, isStart message = false ∧ isLastBody message = false

theorem filter_start_empty (messages : List Message) :
    (messages.filter isStart).length = 0 ↔ ∀ message ∈ messages, isStart message = false := by
  simp [List.filter_eq_nil_iff]

theorem single_response_append (earlier : List Message) (start last : Message) (starts : isStart start = true)
    (apart : isStart last = false ∧ isLastBody start = false) :
    SingleResponse (earlier ++ [start, last]) ↔ Unanswered earlier := by
  have counted : ((earlier ++ [start, last]).filter isStart).length = (earlier.filter isStart).length + 1 := by
    simp [List.filter_append, starts, apart.1]
  constructor
  · intro single message member
    constructor
    · have none : (earlier.filter isStart).length = 0 := by
        have bound := single.1
        omega
      exact (filter_start_empty earlier).mp none message member
    · by_contra final
      obtain ⟨before, after, split⟩ := List.append_of_mem member
      have whole : earlier ++ [start, last] = before ++ message :: (after ++ [start, last]) := by simp [split]
      have empty := single.2 before message (after ++ [start, last]) whole (by simpa using final)
      simp at empty
  · intro unanswered
    constructor
    · have none := (filter_start_empty earlier).mpr (fun message member => (unanswered message member).1)
      omega
    · intro before final after split isFinal
      cases after.eq_nil_or_concat' with
      | inl empty => exact empty
      | inr longer =>
          obtain ⟨middle, tail, same⟩ := longer
          have shape : (earlier ++ [start]) ++ [last] = (before ++ final :: middle) ++ [tail] := by
            simpa [same] using split
          have front := (List.append_inj' shape rfl).1
          have member : final ∈ earlier ++ [start] := by simp [front]
          cases List.mem_append.mp member with
          | inl early =>
              rw [(unanswered final early).2] at isFinal
              cases isFinal
          | inr same =>
              rw [List.mem_singleton.mp same, apart.2] at isFinal
              cases isFinal

theorem writer_messages_single (writer : ResponseWriter) (response : JsonResponse) (earlier : List Message) :
    SingleResponse (earlier ++ writer.messages response) ↔ Unanswered earlier :=
  single_response_append earlier _ _ rfl ⟨rfl, rfl⟩

-- What the inner app does on its own, fed by the receive it is given: the
-- messages it sends, and the exception that leaves it, if it has come to that.
structure AppOutcome where
  messages : List Message
  raised : Option Raised

section Middleware

variable {σ : Type} (writer : ResponseWriter) (limit : Nat) (program : App σ)

def drive (guarded : Bool) : Nat → σ → Nat → List Message → AppOutcome
  | 0, _, _, _ => ⟨[], none⟩
  | steps + 1, app, totalReceived, incoming =>
      match program app with
      | .receive resume =>
          match incoming with
          | [] => ⟨[], none⟩
          | message :: rest =>
              let (total, result) := if guarded then receiveWrapper limit totalReceived message
                else (totalReceived, .ok message)
              drive guarded steps (resume result) total rest
      | .send message next =>
          let later := drive guarded steps next totalReceived incoming
          { later with messages := message :: later.messages }
      | .finish => ⟨[], none⟩
      | .fail error => ⟨[], some error⟩

def AppOutcome.escapes (outcome : AppOutcome) : Bool := outcome.raised = some .requestTooLarge

def answerOf (guarded : Bool) (outcome : AppOutcome) : List Message :=
  if guarded = true ∧ outcome.escapes = true then writer.messages (tooLargeResponse limit) else []

theorem app_step_ended (guarded : Bool) (run : Run σ) (ended : run.status ≠ .running) :
    appStep writer limit program guarded run = run := by
  unfold appStep
  cases status : run.status with
  | running => exact absurd status ended
  | finished => rfl
  | failed error => rfl
  | answered response => rfl

theorem fail_step_sent (guarded : Bool) (run : Run σ) (error : Raised) :
    (failStep writer limit guarded run error).status ≠ .running ∧
      (failStep writer limit guarded run error).sent = run.sent ++ answerOf writer limit guarded ⟨[], some error⟩ := by
  unfold failStep answerOf
  by_cases refused : guarded = true ∧ error = .requestTooLarge
  · simp [refused, AppOutcome.escapes]
  · simp [refused, AppOutcome.escapes]

theorem iterate_sent (guarded : Bool) (steps : Nat) (run : Run σ) (running : run.status = .running) :
    ((appStep writer limit program guarded)^[steps] run).sent =
      run.sent ++ ((drive limit program guarded steps run.app run.totalReceived run.incoming).messages ++
        answerOf writer limit guarded (drive limit program guarded steps run.app run.totalReceived run.incoming)) := by
  induction steps generalizing run with
  | zero => simp [drive, answerOf, AppOutcome.escapes]
  | succ steps ih =>
      rw [Function.iterate_succ_apply]
      cases action : program run.app with
      | receive resume =>
          have stepped : appStep writer limit program guarded run = receiveStep limit guarded run resume := by
            simp [appStep, running, action]
          cases held : run.incoming with
          | nil =>
              have blocked : appStep writer limit program guarded run = run := by
                rw [stepped]
                simp [receiveStep, held]
              rw [blocked, Function.iterate_fixed blocked steps]
              simp [drive, action, answerOf, AppOutcome.escapes]
          | cons message rest =>
              rw [stepped, ih (receiveStep limit guarded run resume) (by simp [receiveStep, held, running])]
              simp [receiveStep, held, drive, action]
      | send message next =>
          have stepped : appStep writer limit program guarded run =
              { run with app := next, sent := run.sent ++ [message] } := by
            simp [appStep, running, action]
          have later := ih { run with app := next, sent := run.sent ++ [message] } running
          rw [stepped, later]
          simp [drive, action, answerOf, AppOutcome.escapes]
      | finish =>
          have stepped : appStep writer limit program guarded run = { run with status := .finished } := by
            simp [appStep, running, action]
          have ended := app_step_ended writer limit program guarded { run with status := .finished } (by simp)
          rw [stepped, Function.iterate_fixed ended steps]
          simp [drive, action, answerOf, AppOutcome.escapes]
      | fail error =>
          have stepped : appStep writer limit program guarded run = failStep writer limit guarded run error := by
            simp [appStep, running, action]
          obtain ⟨stopped, sent⟩ := fail_step_sent writer limit guarded run error
          have ended := app_step_ended writer limit program guarded _ stopped
          rw [stepped, Function.iterate_fixed ended steps, sent]
          simp [drive, action]

-- The limiter answers before the app is called, or the app's own messages
-- leave room for its answer.
def LeavesRoom (scope : Scope) (init : σ) (incoming : List Message) (steps : Nat) : Prop :=
  let outcome := drive limit program (scope.type = .http) steps init 0 incoming
  (scope.type = .http ∧ declaredAnswer limit scope.headers ≠ none) ∨
    (scope.type = .http ∧ outcome.escapes = true ∧ Unanswered outcome.messages) ∨
    (¬ (scope.type = .http ∧ outcome.escapes = true) ∧ SingleResponse outcome.messages)

theorem body_limit_single_response_iff (scope : Scope) (init : σ) (incoming : List Message) (steps : Nat) :
    SingleResponse (call writer limit program scope init incoming steps).sent ↔
      LeavesRoom limit program scope init incoming steps := by
  by_cases http : scope.type = .http
  · cases guard : declaredAnswer limit scope.headers with
    | some response =>
        have sent : (call writer limit program scope init incoming steps).sent = [] ++ writer.messages response := by
          simp [call, http, guard, answeredRun]
        rw [sent, writer_messages_single]
        simp [LeavesRoom, http, guard, Unanswered]
    | none =>
        have started : call writer limit program scope init incoming steps =
            (appStep writer limit program true)^[steps] (startRun init incoming) := by
          simp [call, http, guard]
        rw [started, iterate_sent writer limit program true steps _ rfl]
        simp only [startRun, List.nil_append, answerOf, LeavesRoom, http, guard, decide_true, true_and, ne_eq,
          not_true_eq_false, false_or]
        by_cases escapes : (drive limit program true steps init 0 incoming).escapes = true
        · rw [if_pos escapes, writer_messages_single]
          simp [escapes]
        · rw [if_neg escapes, List.append_nil]
          simp [escapes]
  · have started : call writer limit program scope init incoming steps =
        (appStep writer limit program false)^[steps] (startRun init incoming) := by
      simp [call, http]
    rw [started, iterate_sent writer limit program false steps _ rfl]
    simp [startRun, answerOf, LeavesRoom, http]

end Middleware

inductive StreamerState where
  | starting
  | reading
  | tooLarge
  | finishing
  | done

def streamerApp : App StreamerState
  | .starting => .send (.responseStart 200 []) .reading
  | .reading => .receive (fun received =>
      match received with
      | .ok (.httpRequest _ (some true)) => .reading
      | .ok _ => .finishing
      | .error _ => .tooLarge)
  | .tooLarge => .fail .requestTooLarge
  | .finishing => .send (.responseBody none none) .done
  | .done => .finish

theorem streamed_request_answered_twice :
    (call plainWriter 5 streamerApp { type := .http } .starting twoChunks 4).sent =
        .responseStart 200 [] :: plainWriter.messages (tooLargeResponse 5) ∧
      ¬ ∀ (writer : ResponseWriter) (limit : Nat) (σ : Type) (program : App σ) (scope : Scope) (init : σ)
        (incoming : List Message) (steps : Nat),
        SingleResponse (call writer limit program scope init incoming steps).sent := by
  have sent : (call plainWriter 5 streamerApp { type := .http } .starting twoChunks 4).sent =
      .responseStart 200 [] :: plainWriter.messages (tooLargeResponse 5) := rfl
  refine ⟨sent, ?_⟩
  intro claim
  have single := claim plainWriter 5 StreamerState streamerApp { type := .http } .starting twoChunks 4
  rw [sent] at single
  have starts : 2 ≤ 1 := single.1
  omega

end Chassis.BodySize
