import Chassis.Asgi
import Mathlib.Tactic.Common

set_option autoImplicit false

namespace Chassis.Asgi

inductive ResponsePhase where
  | fresh
  | streaming
  | complete
  | malformed
deriving DecidableEq, Repr

def advance : ResponsePhase → Message → ResponsePhase
  | .fresh, .responseStart _ _ => .streaming
  | .streaming, .responseBody _ moreBody => if moreBody = some true then .streaming else .complete
  | _, _ => .malformed

def phaseOf (messages : List Message) : ResponsePhase := messages.foldl advance .fresh

def isStart : Message → Bool
  | .responseStart _ _ => true
  | _ => false

def isLastBody : Message → Bool
  | .responseBody _ moreBody => moreBody ≠ some true
  | _ => false

-- One start, which comes first, then bodies, of which the last one alone says
-- that no more will follow.
def CompleteResponse (messages : List Message) : Prop :=
  ∃ status headers bodies body moreBody,
    messages = .responseStart status headers :: (bodies ++ [.responseBody body moreBody]) ∧ moreBody ≠ some true ∧
      ∀ message ∈ bodies, ∃ part, message = .responseBody part (some true)

def ResponsePrefix (messages : List Message) : Prop := ∃ rest, CompleteResponse (messages ++ rest)

theorem phase_append (left right : List Message) : phaseOf (left ++ right) = right.foldl advance (phaseOf left) := by
  rw [phaseOf, List.foldl_append, phaseOf]

theorem malformed_stays (messages : List Message) : messages.foldl advance .malformed = .malformed := by
  induction messages with
  | nil => rfl
  | cons message rest ih => exact ih

theorem regular_step (phase : ResponsePhase) (message : Message) (rest : List Message)
    (regular : (message :: rest).foldl advance phase ≠ .malformed) : advance phase message ≠ .malformed := by
  intro broken
  rw [List.foldl_cons, broken, malformed_stays] at regular
  exact regular rfl

theorem advance_cases (phase : ResponsePhase) (message : Message) (regular : advance phase message ≠ .malformed) :
    (∃ status headers, phase = .fresh ∧ message = .responseStart status headers) ∨
      ∃ body moreBody, phase = .streaming ∧ message = .responseBody body moreBody := by
  cases phase with
  | fresh => cases message <;> simp [advance] at regular ⊢
  | streaming => cases message <;> simp [advance] at regular ⊢
  | complete => exact absurd rfl regular
  | malformed => exact absurd rfl regular

theorem complete_ends (messages : List Message) (regular : messages.foldl advance .complete ≠ .malformed) :
    messages = [] := by
  cases messages with
  | nil => rfl
  | cons message rest => exact absurd (malformed_stays rest) regular

theorem streaming_bodies (bodies : List Message)
    (intermediate : ∀ message ∈ bodies, ∃ part, message = .responseBody part (some true)) :
    bodies.foldl advance .streaming = .streaming := by
  induction bodies with
  | nil => rfl
  | cons message rest ih =>
      obtain ⟨part, same⟩ := intermediate message (by simp)
      rw [List.foldl_cons, same]
      exact ih (fun other member => intermediate other (by simp [member]))

theorem streaming_complete (messages : List Message) (done : messages.foldl advance .streaming = .complete) :
    ∃ bodies body moreBody, messages = bodies ++ [.responseBody body moreBody] ∧ moreBody ≠ some true ∧
      ∀ message ∈ bodies, ∃ part, message = .responseBody part (some true) := by
  induction messages with
  | nil => cases done
  | cons message rest ih =>
      have regular := regular_step .streaming message rest (by simp [done])
      obtain ⟨_, _, unstarted, _⟩ | ⟨body, moreBody, _, same⟩ := advance_cases .streaming message regular
      · cases unstarted
      · subst same
        by_cases more : moreBody = some true
        · have continued : rest.foldl advance .streaming = .complete := by simpa [advance, more] using done
          obtain ⟨bodies, last, flag, split, final, intermediate⟩ := ih continued
          refine ⟨.responseBody body moreBody :: bodies, last, flag, by simp [split], final, ?_⟩
          intro other member
          cases List.mem_cons.mp member with
          | inl same => exact ⟨body, by rw [same, more]⟩
          | inr later => exact intermediate other later
        · have ended : rest.foldl advance .complete = .complete := by simpa [advance, more] using done
          have empty := complete_ends rest (by simp [ended])
          exact ⟨[], body, moreBody, by simp [empty], more, by simp⟩

theorem complete_response_iff (messages : List Message) :
    CompleteResponse messages ↔ phaseOf messages = .complete := by
  constructor
  · intro complete
    obtain ⟨status, headers, bodies, body, moreBody, split, final, intermediate⟩ := complete
    have streamed := streaming_bodies bodies intermediate
    rw [split]
    simp [phaseOf, advance, List.foldl_append, streamed, final]
  · intro reached
    cases messages with
    | nil => cases reached
    | cons message rest =>
        rw [phaseOf] at reached
        have regular := regular_step .fresh message rest (by simp [reached])
        obtain ⟨status, headers, _, same⟩ | ⟨_, _, unstarted, _⟩ := advance_cases .fresh message regular
        · subst same
          obtain ⟨bodies, body, moreBody, split, final, intermediate⟩ := streaming_complete rest reached
          exact ⟨status, headers, bodies, body, moreBody, by rw [split], final, intermediate⟩
        · cases unstarted

theorem response_prefix_phase (messages : List Message) (emitted : ResponsePrefix messages) :
    phaseOf messages ≠ .malformed := by
  obtain ⟨rest, complete⟩ := emitted
  intro broken
  have whole := (complete_response_iff _).mp complete
  rw [phase_append, broken, malformed_stays] at whole
  cases whole

theorem advance_not_fresh (phase : ResponsePhase) (message : Message) : advance phase message ≠ .fresh := by
  by_cases broken : advance phase message = .malformed
  · simp [broken]
  · obtain ⟨status, headers, rfl, rfl⟩ | ⟨body, moreBody, rfl, rfl⟩ := advance_cases phase message broken
    · simp [advance]
    · by_cases more : moreBody = some true <;> simp [advance, more]

theorem fresh_empty (messages : List Message) (fresh : phaseOf messages = .fresh) : messages = [] := by
  cases messages.eq_nil_or_concat' with
  | inl empty => exact empty
  | inr split =>
      obtain ⟨before, last, same⟩ := split
      rw [same, phase_append] at fresh
      exact absurd fresh (advance_not_fresh (phaseOf before) last)

theorem phase_flags (messages : List Message) (regular : phaseOf messages ≠ .malformed) :
    (messages.any isStart = true ↔ phaseOf messages ≠ .fresh) ∧
      (messages.any isLastBody = true ↔ phaseOf messages = .complete) := by
  induction messages using List.reverseRecOn with
  | nil => simp [phaseOf]
  | append_singleton before last ih =>
      have whole : phaseOf (before ++ [last]) = advance (phaseOf before) last := phase_append before [last]
      rw [whole] at regular ⊢
      obtain ⟨status, headers, fresh, same⟩ | ⟨body, moreBody, streaming, same⟩ :=
        advance_cases (phaseOf before) last regular
      · rw [fresh, fresh_empty before fresh, same]
        simp [isStart, isLastBody, advance]
      · rw [streaming] at ih ⊢
        have flags := ih (by simp)
        have seen : before.any isStart = true := flags.1.mpr (by simp)
        have unfinished : before.any isLastBody = false := by simpa using flags.2
        rw [same]
        by_cases more : moreBody = some true <;>
          simp [List.any_append, seen, unfinished, isStart, isLastBody, advance, more]

theorem complete_starts (messages : List Message) (complete : CompleteResponse messages) :
    messages.any isStart = true := by
  have reached := (complete_response_iff messages).mp complete
  have flags := phase_flags messages (by simp [reached])
  exact flags.1.mpr (by simp [reached])

section Within

variable (before after : List Message) (message : Message)
  (regular : phaseOf (before ++ message :: after) ≠ .malformed)

include regular

theorem within_cases : (∃ status headers, before = [] ∧ message = .responseStart status headers) ∨
    ∃ body moreBody, phaseOf before = .streaming ∧ message = .responseBody body moreBody := by
  rw [phase_append] at regular
  obtain ⟨status, headers, fresh, same⟩ | ⟨body, moreBody, streaming, same⟩ :=
    advance_cases (phaseOf before) message (regular_step (phaseOf before) message after regular)
  · exact .inl ⟨status, headers, fresh_empty before fresh, same⟩
  · exact .inr ⟨body, moreBody, streaming, same⟩

theorem start_first (start : isStart message = true) : before = [] := by
  obtain ⟨_, _, first, _⟩ | ⟨_, _, _, same⟩ := within_cases before after message regular
  · exact first
  · rw [same] at start
    cases start

theorem last_ends (last : isLastBody message = true) : after = [] ∧ phaseOf before = .streaming := by
  obtain ⟨_, _, _, same⟩ | ⟨body, moreBody, streaming, same⟩ := within_cases before after message regular
  · rw [same] at last
    cases last
  · subst same
    have ended : moreBody ≠ some true := by simpa [isLastBody] using last
    rw [phase_append, List.foldl_cons, streaming] at regular
    simp only [advance, if_neg ended] at regular
    exact ⟨complete_ends after regular, streaming⟩

theorem dropped_same_phase (notStart : isStart message = false) (notLast : isLastBody message = false) :
    phaseOf (before ++ after) = phaseOf (before ++ message :: after) := by
  obtain ⟨_, _, _, same⟩ | ⟨body, moreBody, streaming, same⟩ := within_cases before after message regular
  · rw [same] at notStart
    cases notStart
  · subst same
    have more : moreBody = some true := by simpa [isLastBody] using notLast
    have neutral : advance (phaseOf before) (.responseBody body moreBody) = phaseOf before := by
      simp [streaming, advance, more]
    rw [phase_append, phase_append, List.foldl_cons, neutral]

end Within

theorem single_start (message : Message) (after : List Message)
    (regular : phaseOf (message :: after) ≠ .malformed) : after.any isStart = false := by
  by_contra again
  obtain ⟨other, member, second⟩ := List.any_eq_true.mp (by simpa using again)
  obtain ⟨left, right, split⟩ := List.append_of_mem member
  have shape : message :: after = (message :: left) ++ other :: right := by simp [split]
  rw [shape] at regular
  exact absurd (start_first (message :: left) right other regular second) (List.cons_ne_nil _ _)

end Chassis.Asgi
