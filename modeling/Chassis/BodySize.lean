import Chassis.Asgi
import Chassis.Transition
import Mathlib.Tactic.Common

set_option autoImplicit false

namespace Chassis.BodySize

open Asgi Text Transition

-- int(raw) for bytes; none is the ValueError. Besides bad syntax, more than
-- 4300 digits are refused.
def isAsciiSpace (c : Char) : Bool := (9 ≤ c.toNat ∧ c.toNat ≤ 13) || c == ' '

def signedDigits (text : Str) : Bool × Str :=
  match text with
  | '-' :: rest => (true, rest)
  | '+' :: rest => (false, rest)
  | _ => (false, text)

def intFromBytes (raw : Bytes) : Option Int :=
  let (negative, magnitude) := signedDigits (((latin1 raw).dropWhile isAsciiSpace).rdropWhile isAsciiSpace)
  let groups := magnitude.splitOn '_'
  let digits := groups.flatten
  if (∀ group ∈ groups, group ≠ [] ∧ group.all Char.isDigit = true) ∧ digits.length ≤ 4300 then
    let value : Int := Nat.ofDigitChars 10 digits 0
    some (if negative then -value else value)
  else none

-- dict(scope["headers"]).get(b"content-length"): the last line wins.
def contentLength (headers : RawHeaders) : Option Bytes :=
  (headers.reverse.find? (fun line => line.1 = ascii "content-length")).map Prod.snd

def invalidLengthResponse : JsonResponse :=
  { statusCode := 400
    content := .object
      [("error".toList, Json.text "invalid_request"),
        ("detail".toList, Json.text "Content-Length header must be a valid integer")] }

def tooLargeResponse (limit : Nat) : JsonResponse :=
  { statusCode := 413
    content := .object
      [("error".toList, Json.text "request_too_large"),
        ("detail".toList, .str ("Request body exceeds ".toList ++ natText limit ++ " byte limit".toList))] }

def declaredAnswer (limit : Nat) (headers : RawHeaders) : Option JsonResponse :=
  match contentLength headers with
  | none => none
  | some raw =>
      match intFromBytes raw with
      | none => some invalidLengthResponse
      | some declared => if declared > limit then some (tooLargeResponse limit) else none

def bodyBytes : Message → Nat
  | .httpRequest body _ => (body.getD []).length
  | _ => 0

def receiveWrapper (limit totalReceived : Nat) (message : Message) : Nat × Except Raised Message :=
  match message with
  | .httpRequest body _ =>
      let total := totalReceived + (body.getD []).length
      if total > limit then (total, .error .requestTooLarge) else (total, .ok message)
  | _ => (totalReceived, .ok message)

inductive Status where
  | running
  | finished
  | failed (error : Raised)
  | answered (response : JsonResponse)

structure Run (σ : Type) where
  app : σ
  appCalled : Bool
  incoming : List Message
  totalReceived : Nat
  handed : List Message
  sent : List Message
  status : Status

def handedBytes {σ : Type} (run : Run σ) : Nat := (run.handed.map bodyBytes).sum

section Middleware

variable {σ : Type} (writer : ResponseWriter) (limit : Nat) (program : App σ)

-- Outside http the inner app has the bare receive. With no message left its
-- receive blocks.
def receiveStep (guarded : Bool) (run : Run σ) (resume : Except Raised Message → σ) : Run σ :=
  match run.incoming with
  | [] => run
  | message :: rest =>
      let (total, result) := if guarded then receiveWrapper limit run.totalReceived message
        else (run.totalReceived, .ok message)
      { run with
        app := resume result
        incoming := rest
        totalReceived := total
        handed := match result with
          | .ok delivered => run.handed ++ [delivered]
          | .error _ => run.handed }

def failStep (guarded : Bool) (run : Run σ) (error : Raised) : Run σ :=
  if guarded = true ∧ error = .requestTooLarge then
    { run with
      sent := run.sent ++ writer.messages (tooLargeResponse limit)
      status := .answered (tooLargeResponse limit) }
  else { run with status := .failed error }

def appStep (guarded : Bool) (run : Run σ) : Run σ :=
  match run.status with
  | .running =>
      match program run.app with
      | .receive resume => receiveStep limit guarded run resume
      | .send message next => { run with app := next, sent := run.sent ++ [message] }
      | .finish => { run with status := .finished }
      | .fail error => failStep writer limit guarded run error
  | _ => run

def startRun (init : σ) (incoming : List Message) : Run σ := ⟨init, true, incoming, 0, [], [], .running⟩

def answeredRun (init : σ) (incoming : List Message) (response : JsonResponse) : Run σ :=
  ⟨init, false, incoming, 0, [], writer.messages response, .answered response⟩

def call (scope : Scope) (init : σ) (incoming : List Message) (steps : Nat) : Run σ :=
  if scope.type ≠ .http then (appStep writer limit program false)^[steps] (startRun init incoming)
  else
    match declaredAnswer limit scope.headers with
    | some response => answeredRun writer init incoming response
    | none => (appStep writer limit program true)^[steps] (startRun init incoming)

structure Within (run : Run σ) : Prop where
  bounded : handedBytes run ≤ limit
  counted : handedBytes run ≤ run.totalReceived

theorem receive_wrapper_cases (totalReceived : Nat) (message : Message) :
    (receiveWrapper limit totalReceived message = (totalReceived + bodyBytes message, .ok message) ∧
      totalReceived + bodyBytes message ≤ limit) ∨
    (receiveWrapper limit totalReceived message = (totalReceived, .ok message) ∧ bodyBytes message = 0) ∨
    (receiveWrapper limit totalReceived message = (totalReceived + bodyBytes message, .error .requestTooLarge) ∧
      limit < totalReceived + bodyBytes message) := by
  cases message with
  | httpRequest body moreBody =>
      by_cases excess : totalReceived + (body.getD []).length > limit
      · exact .inr (.inr ⟨by simp [receiveWrapper, bodyBytes, excess], excess⟩)
      · exact .inl ⟨by simp [receiveWrapper, bodyBytes, excess], not_lt.mp excess⟩
  | httpDisconnect => exact .inr (.inl ⟨rfl, rfl⟩)
  | responseStart status headers => exact .inr (.inl ⟨rfl, rfl⟩)
  | responseBody body moreBody => exact .inr (.inl ⟨rfl, rfl⟩)
  | other type => exact .inr (.inl ⟨rfl, rfl⟩)

theorem handed_snoc (run : Run σ) (message : Message) :
    ((run.handed ++ [message]).map bodyBytes).sum = handedBytes run + bodyBytes message := by
  simp [handedBytes]

theorem receive_step_within (run : Run σ) (resume : Except Raised Message → σ) (within : Within limit run) :
    Within limit (receiveStep limit true run resume) := by
  unfold receiveStep
  cases run.incoming with
  | nil => exact within
  | cons message rest =>
      have counted := within.counted
      cases receive_wrapper_cases limit run.totalReceived message with
      | inl passed =>
          obtain ⟨result, room⟩ := passed
          simp only [if_true, result]
          refine ⟨?_, ?_⟩
          · rw [handedBytes, handed_snoc]
            omega
          · rw [handedBytes, handed_snoc]
            exact Nat.add_le_add_right counted _
      | inr other =>
          cases other with
          | inl bodyless =>
              obtain ⟨result, empty⟩ := bodyless
              simp only [if_true, result]
              refine ⟨?_, ?_⟩
              · rw [handedBytes, handed_snoc, empty]
                exact within.bounded
              · rw [handedBytes, handed_snoc, empty]
                exact counted
          | inr refused =>
              obtain ⟨result, _⟩ := refused
              simp only [if_true, result]
              refine ⟨within.bounded, ?_⟩
              exact le_trans counted (Nat.le_add_right _ _)

theorem fail_step_handed (guarded : Bool) (run : Run σ) (error : Raised) :
    (failStep writer limit guarded run error).handed = run.handed ∧
      (failStep writer limit guarded run error).totalReceived = run.totalReceived := by
  unfold failStep
  split <;> exact ⟨rfl, rfl⟩

theorem app_step_within (run : Run σ) (within : Within limit run) :
    Within limit (appStep writer limit program true run) := by
  unfold appStep
  cases run.status with
  | running =>
      cases program run.app with
      | receive resume => exact receive_step_within limit run resume within
      | send message next => exact ⟨within.bounded, within.counted⟩
      | finish => exact ⟨within.bounded, within.counted⟩
      | fail error =>
          obtain ⟨handed, total⟩ := fail_step_handed writer limit true run error
          exact ⟨by rw [handedBytes, handed]; exact within.bounded, by rw [handedBytes, handed, total]; exact within.counted⟩
  | finished => exact within
  | failed error => exact within
  | answered response => exact within

theorem call_within (scope : Scope) (http : scope.type = .http) (init : σ) (incoming : List Message) (steps : Nat) :
    handedBytes (call writer limit program scope init incoming steps) ≤ limit := by
  rw [call, if_neg (not_not.mpr http)]
  cases declaredAnswer limit scope.headers with
  | some response => exact Nat.zero_le _
  | none =>
      have start : Within limit (startRun init incoming) := ⟨Nat.zero_le _, Nat.zero_le _⟩
      exact (iterate_invariant _ (Within limit) (app_step_within writer limit program) _ start steps).bounded

end Middleware

inductive IsBody : List Message → Prop where
  | last (body : Option Bytes) (moreBody : Option Bool) (final : moreBody ≠ some true) :
      IsBody [.httpRequest body moreBody]
  | chunk (body : Option Bytes) (rest : List Message) (later : IsBody rest) :
      IsBody (.httpRequest body (some true) :: rest)

def isRequest : Message → Bool
  | .httpRequest _ _ => true
  | _ => false

def totalBytes (messages : List Message) : Nat := (messages.map bodyBytes).sum

-- An app that reads to the end of the body before it answers, lets the
-- exception of its receive propagate, and raises no such exception itself.
structure ReadsWholeBody {σ : Type} (program : App σ) (reading answering : σ → Prop) : Prop where
  reads : ∀ state, reading state → ∃ resume, program state = .receive resume ∧
    (∀ body, reading (resume (.ok (.httpRequest body (some true))))) ∧
    (∀ body moreBody, moreBody ≠ some true → answering (resume (.ok (.httpRequest body moreBody)))) ∧
    program (resume (.error .requestTooLarge)) = .fail .requestTooLarge
  receives : ∀ state resume message, answering state → program state = .receive resume →
    answering (resume (.ok message))
  sends : ∀ state message next, answering state → program state = .send message next → answering next
  fails : ∀ state error, answering state → program state = .fail error → error ≠ .requestTooLarge

section Exact

variable {σ : Type} (writer : ResponseWriter) (limit : Nat) (program : App σ) (reading answering : σ → Prop)

def Underway (run : Run σ) : Prop :=
  reading run.app ∧ ∃ body tail, run.incoming = body ++ tail ∧ IsBody body ∧
    (∀ message ∈ tail, isRequest message = false) ∧ run.totalReceived + totalBytes body ≤ limit

def Replying (run : Run σ) : Prop :=
  answering run.app ∧ ∀ message ∈ run.incoming, isRequest message = false

def Accepted (run : Run σ) : Prop :=
  match run.status with
  | .running => Underway limit reading run ∨ Replying answering run
  | .answered _ => False
  | _ => True

theorem receive_ok (run : Run σ) (resume : Except Raised Message → σ) (body : Option Bytes) (moreBody : Option Bool)
    (rest : List Message) (next : run.incoming = .httpRequest body moreBody :: rest)
    (room : run.totalReceived + (body.getD []).length ≤ limit) :
    receiveStep limit true run resume =
      { run with
        app := resume (.ok (.httpRequest body moreBody))
        incoming := rest
        totalReceived := run.totalReceived + (body.getD []).length
        handed := run.handed ++ [.httpRequest body moreBody] } := by
  simp [receiveStep, next, receiveWrapper, not_lt.mpr room]

theorem receive_over (run : Run σ) (resume : Except Raised Message → σ) (body : Option Bytes)
    (moreBody : Option Bool) (rest : List Message) (next : run.incoming = .httpRequest body moreBody :: rest)
    (excess : limit < run.totalReceived + (body.getD []).length) :
    receiveStep limit true run resume =
      { run with
        app := resume (.error .requestTooLarge)
        incoming := rest
        totalReceived := run.totalReceived + (body.getD []).length } := by
  simp [receiveStep, next, receiveWrapper, excess]

theorem receive_other (run : Run σ) (resume : Except Raised Message → σ) (message : Message) (rest : List Message)
    (next : run.incoming = message :: rest) (bodyless : isRequest message = false) :
    receiveStep limit true run resume =
      { run with app := resume (.ok message), incoming := rest, handed := run.handed ++ [message] } := by
  cases message with
  | httpRequest body moreBody => cases bodyless
  | httpDisconnect => simp [receiveStep, next, receiveWrapper]
  | responseStart status headers => simp [receiveStep, next, receiveWrapper]
  | responseBody body moreBody => simp [receiveStep, next, receiveWrapper]
  | other type => simp [receiveStep, next, receiveWrapper]

theorem underway_step (reads : ReadsWholeBody program reading answering) (run : Run σ)
    (running : run.status = .running) (underway : Underway limit reading run) :
    Accepted limit reading answering (appStep writer limit program true run) := by
  obtain ⟨inReading, body, tail, incoming, isBody, bodyless, room⟩ := underway
  obtain ⟨resume, receives, more, final, _⟩ := reads.reads run.app inReading
  have stepped : appStep writer limit program true run = receiveStep limit true run resume := by
    simp [appStep, running, receives]
  rw [stepped]
  cases isBody with
  | last body moreBody isLast =>
      have fits : run.totalReceived + (body.getD []).length ≤ limit := by simpa [totalBytes, bodyBytes] using room
      rw [receive_ok limit run resume body moreBody tail incoming fits]
      simp only [Accepted, running]
      exact .inr ⟨final body moreBody isLast, bodyless⟩
  | chunk body rest later =>
      have fits : run.totalReceived + (body.getD []).length + totalBytes rest ≤ limit := by
        simpa [totalBytes, bodyBytes, add_assoc] using room
      rw [receive_ok limit run resume body (some true) (rest ++ tail) incoming (le_trans (Nat.le_add_right _ _) fits)]
      simp only [Accepted, running]
      exact .inl ⟨more body, rest, tail, rfl, later, bodyless, fits⟩

theorem replying_step (reads : ReadsWholeBody program reading answering) (run : Run σ)
    (running : run.status = .running) (replying : Replying answering run) :
    Accepted limit reading answering (appStep writer limit program true run) := by
  obtain ⟨inAnswering, bodyless⟩ := replying
  cases action : program run.app with
  | receive resume =>
      have stepped : appStep writer limit program true run = receiveStep limit true run resume := by
        simp [appStep, running, action]
      rw [stepped]
      cases incoming : run.incoming with
      | nil =>
          simp only [receiveStep, incoming, Accepted, running]
          exact .inr ⟨inAnswering, bodyless⟩
      | cons message rest =>
          rw [incoming] at bodyless
          rw [receive_other limit run resume message rest incoming (bodyless message (by simp))]
          simp only [Accepted, running]
          exact .inr ⟨reads.receives run.app resume message inAnswering action,
            fun other member => bodyless other (by simp [member])⟩
  | send message next =>
      simp only [appStep, running, action, Accepted]
      exact .inr ⟨reads.sends run.app message next inAnswering action, bodyless⟩
  | finish => simp [appStep, running, action, Accepted]
  | fail error =>
      have harmless := reads.fails run.app error inAnswering action
      simp [appStep, running, action, Accepted, failStep, harmless]

theorem accepted_step (reads : ReadsWholeBody program reading answering) (run : Run σ)
    (accepted : Accepted limit reading answering run) :
    Accepted limit reading answering (appStep writer limit program true run) := by
  cases status : run.status with
  | running =>
      simp only [Accepted, status] at accepted
      cases accepted with
      | inl underway => exact underway_step writer limit program reading answering reads run status underway
      | inr replying => exact replying_step writer limit program reading answering reads run status replying
  | finished => simp [appStep, status, Accepted]
  | failed error => simp [appStep, status, Accepted]
  | answered response => simp [Accepted, status] at accepted

theorem over_rejected (reads : ReadsWholeBody program reading answering) (body tail : List Message)
    (isBody : IsBody body) (run : Run σ) (running : run.status = .running) (inReading : reading run.app)
    (incoming : run.incoming = body ++ tail) (excess : limit < run.totalReceived + totalBytes body) :
    ∃ steps, ((appStep writer limit program true)^[steps] run).status = .answered (tooLargeResponse limit) ∧
      ((appStep writer limit program true)^[steps] run).sent = run.sent ++ writer.messages (tooLargeResponse limit) := by
  have crossed (run : Run σ) (running : run.status = .running) (inReading : reading run.app) (body : Option Bytes)
      (moreBody : Option Bool) (rest : List Message) (incoming : run.incoming = .httpRequest body moreBody :: rest)
      (excess : limit < run.totalReceived + (body.getD []).length) :
      ∃ steps, ((appStep writer limit program true)^[steps] run).status = .answered (tooLargeResponse limit) ∧
        ((appStep writer limit program true)^[steps] run).sent =
          run.sent ++ writer.messages (tooLargeResponse limit) := by
    obtain ⟨resume, receives, _, _, propagates⟩ := reads.reads run.app inReading
    refine ⟨2, ?_⟩
    have first : appStep writer limit program true run = receiveStep limit true run resume := by
      simp [appStep, running, receives]
    have second := receive_over limit run resume body moreBody rest incoming excess
    rw [Function.iterate_succ_apply, Function.iterate_one, first, second]
    simp [appStep, running, propagates, failStep]
  induction isBody generalizing run with
  | last body moreBody _ =>
      exact crossed run running inReading body moreBody tail incoming (by simpa [totalBytes, bodyBytes] using excess)
  | chunk body rest later ih =>
      by_cases crossing : limit < run.totalReceived + (body.getD []).length
      · exact crossed run running inReading body (some true) (rest ++ tail) incoming crossing
      · obtain ⟨resume, receives, more, _, _⟩ := reads.reads run.app inReading
        have stepped : appStep writer limit program true run = receiveStep limit true run resume := by
          simp [appStep, running, receives]
        have moved := receive_ok limit run resume body (some true) (rest ++ tail) incoming (not_lt.mp crossing)
        have above : limit < run.totalReceived + (body.getD []).length + totalBytes rest := by
          simpa [totalBytes, bodyBytes, add_assoc] using excess
        have continued := ih (receiveStep limit true run resume)
        rw [moved] at continued
        obtain ⟨steps, answered, sent⟩ := continued running (more body) rfl above
        refine ⟨steps + 1, ?_⟩
        rw [Function.iterate_succ_apply, stepped, moved]
        exact ⟨answered, sent⟩

theorem undeclared_guard (headers : RawHeaders) (total : Nat)
    (truthful : contentLength headers = none ∨
      ∃ raw, contentLength headers = some raw ∧ intFromBytes raw = some (total : Int)) :
    declaredAnswer limit headers = none ∨
      (declaredAnswer limit headers = some (tooLargeResponse limit) ∧ limit < total) := by
  unfold declaredAnswer
  cases truthful with
  | inl absent => exact .inl (by rw [absent])
  | inr declared =>
      obtain ⟨raw, line, value⟩ := declared
      by_cases excess : (total : Int) > limit
      · exact .inr ⟨by simp [line, value, excess], by omega⟩
      · exact .inl (by simp [line, value, excess])

theorem call_exact (scope : Scope) (http : scope.type = .http)
    (reads : ReadsWholeBody program reading answering) (init : σ) (inReading : reading init)
    (body tail : List Message) (isBody : IsBody body) (bodyless : ∀ message ∈ tail, isRequest message = false)
    (truthful : contentLength scope.headers = none ∨
      ∃ raw, contentLength scope.headers = some raw ∧ intFromBytes raw = some (totalBytes body : Int)) :
    (limit < totalBytes body → ∃ steps,
      (call writer limit program scope init (body ++ tail) steps).status = .answered (tooLargeResponse limit) ∧
      (call writer limit program scope init (body ++ tail) steps).sent = writer.messages (tooLargeResponse limit)) ∧
    (totalBytes body ≤ limit → ∀ steps response,
      (call writer limit program scope init (body ++ tail) steps).status ≠ .answered response) := by
  have started (guard : declaredAnswer limit scope.headers = none) (steps : Nat) :
      call writer limit program scope init (body ++ tail) steps =
        (appStep writer limit program true)^[steps] (startRun init (body ++ tail)) := by
    rw [call, if_neg (not_not.mpr http), guard]
  constructor
  · intro excess
    cases undeclared_guard limit scope.headers (totalBytes body) truthful with
    | inl guard =>
        obtain ⟨steps, answered, sent⟩ := over_rejected writer limit program reading answering reads body tail isBody
          (startRun init (body ++ tail)) rfl inReading rfl (by simpa [startRun] using excess)
        exact ⟨steps, by rw [started guard]; exact answered, by rw [started guard]; exact sent⟩
    | inr declared =>
        have answered : call writer limit program scope init (body ++ tail) 0 =
            answeredRun writer init (body ++ tail) (tooLargeResponse limit) := by
          rw [call, if_neg (not_not.mpr http), declared.1]
        exact ⟨0, by rw [answered]; rfl, by rw [answered]; rfl⟩
  · intro within steps response
    cases undeclared_guard limit scope.headers (totalBytes body) truthful with
    | inl guard =>
        have start : Accepted limit reading answering (startRun init (body ++ tail)) := by
          refine .inl ⟨inReading, body, tail, rfl, isBody, bodyless, ?_⟩
          simpa [startRun] using within
        have accepted := iterate_invariant _ (Accepted limit reading answering)
          (accepted_step writer limit program reading answering reads) _ start steps
        intro answered
        rw [started guard] at answered
        simp [Accepted, answered] at accepted
    | inr declared => omega

end Exact

theorem body_limit_sound_and_exact (writer : ResponseWriter) (limit : Nat) (scope : Scope)
    (http : scope.type = .http) :
    (∀ (σ : Type) (program : App σ) (init : σ) (incoming : List Message) (steps : Nat),
      handedBytes (call writer limit program scope init incoming steps) ≤ limit) ∧
    (∀ (σ : Type) (program : App σ) (reading answering : σ → Prop) (init : σ) (body tail : List Message),
      ReadsWholeBody program reading answering → reading init → IsBody body →
      (∀ message ∈ tail, isRequest message = false) →
      (contentLength scope.headers = none ∨
        ∃ raw, contentLength scope.headers = some raw ∧ intFromBytes raw = some (totalBytes body : Int)) →
      ((∃ steps, (call writer limit program scope init (body ++ tail) steps).status =
          .answered (tooLargeResponse limit)) ↔ limit < totalBytes body) ∧
      (limit < totalBytes body → ∃ steps,
        (call writer limit program scope init (body ++ tail) steps).sent =
          writer.messages (tooLargeResponse limit))) ∧
    ∀ (raw : Bytes) (declared : Int), contentLength scope.headers = some raw →
      intFromBytes raw = some declared → declared > limit →
      ∀ (σ : Type) (program : App σ) (init : σ) (incoming : List Message) (steps : Nat),
        let run := call writer limit program scope init incoming steps
        run.appCalled = false ∧ run.incoming = incoming ∧ run.handed = [] ∧
          run.sent = writer.messages (tooLargeResponse limit) ∧ run.status = .answered (tooLargeResponse limit) := by
  refine ⟨?_, ?_, ?_⟩
  · intro σ program init incoming steps
    exact call_within writer limit program scope http init incoming steps
  · intro σ program reading answering init body tail reads inReading isBody bodyless truthful
    have exact := call_exact writer limit program reading answering scope http reads init inReading body tail isBody
      bodyless truthful
    constructor
    · constructor
      · intro rejected
        obtain ⟨steps, answered⟩ := rejected
        exact not_le.mp (fun within => exact.2 within steps _ answered)
      · intro excess
        obtain ⟨steps, answered, _⟩ := exact.1 excess
        exact ⟨steps, answered⟩
    · intro excess
      obtain ⟨steps, _, sent⟩ := exact.1 excess
      exact ⟨steps, sent⟩
  · intro raw declared line value excess σ program init incoming steps
    have guard : declaredAnswer limit scope.headers = some (tooLargeResponse limit) := by
      simp [declaredAnswer, line, value, excess]
    have answered : call writer limit program scope init incoming steps =
        answeredRun writer init incoming (tooLargeResponse limit) := by
      rw [call, if_neg (not_not.mpr http), guard]
    simp [answered, answeredRun]

inductive ReaderState where
  | reading
  | tooLarge
  | starting
  | finishing
  | done

def readerApp : App ReaderState
  | .reading => .receive (fun received =>
      match received with
      | .ok (.httpRequest _ (some true)) => .reading
      | .ok _ => .starting
      | .error _ => .tooLarge)
  | .tooLarge => .fail .requestTooLarge
  | .starting => .send (.responseStart 204 []) .finishing
  | .finishing => .send (.responseBody none none) .done
  | .done => .finish

def plainWriter : ResponseWriter := ⟨fun _ => [], fun _ => []⟩

theorem reader_reads : ReadsWholeBody readerApp (fun state => state = .reading)
    (fun state => state = .starting ∨ state = .finishing ∨ state = .done) where
  reads := by
    intro state inReading
    subst inReading
    refine ⟨_, rfl, fun body => rfl, ?_, rfl⟩
    intro body moreBody final
    cases moreBody with
    | none => exact .inl rfl
    | some more =>
        cases more with
        | false => exact .inl rfl
        | true => exact absurd rfl final
  receives := by
    intro state resume message inAnswering action
    rcases inAnswering with rfl | rfl | rfl <;> cases action
  sends := by
    intro state message next inAnswering action
    rcases inAnswering with rfl | rfl | rfl <;> cases action <;> simp
  fails := by
    intro state error inAnswering action
    rcases inAnswering with rfl | rfl | rfl <;> cases action

def twoChunks : List Message := [.httpRequest (some (ascii "1234")) (some true), .httpRequest (some (ascii "56")) (some false)]

theorem body_limit_sound_and_exact_six :
    (∃ steps, (call plainWriter 5 readerApp { type := .http } .reading (twoChunks ++ []) steps).status =
      .answered (tooLargeResponse 5)) ↔ 5 < totalBytes twoChunks :=
  ((body_limit_sound_and_exact plainWriter 5 { type := .http } rfl).2.1 ReaderState readerApp _ _ .reading twoChunks []
    reader_reads rfl (.chunk _ _ (.last _ _ (by simp))) (by simp) (.inl rfl)).1

end Chassis.BodySize
