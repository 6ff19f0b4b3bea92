import Mathlib.Data.List.Basic
import Mathlib.Logic.Function.Iterate

set_option autoImplicit false

namespace Chassis.Transition

section Machine

variable {σ τ ι ο : Type}

def run (step : σ → ι → σ × ο) : σ → List ι → σ × List ο
  | state, [] => (state, [])
  | state, input :: rest =>
      let (next, answer) := step state input
      let (last, answers) := run step next rest
      (last, answer :: answers)

theorem run_cons (step : σ → ι → σ × ο) (state : σ) (input : ι) (rest : List ι) :
    run step state (input :: rest) =
      ((run step (step state input).1 rest).1, (step state input).2 :: (run step (step state input).1 rest).2) := rfl

theorem run_append (step : σ → ι → σ × ο) (state : σ) (before after : List ι) :
    run step state (before ++ after) =
      ((run step (run step state before).1 after).1,
        (run step state before).2 ++ (run step (run step state before).1 after).2) := by
  induction before generalizing state with
  | nil => rfl
  | cons input rest ih =>
      rw [List.cons_append, run_cons, ih, run_cons]
      rfl

theorem run_snoc (step : σ → ι → σ × ο) (state : σ) (before : List ι) (input : ι) :
    (run step state (before ++ [input])).1 = (step (run step state before).1 input).1 := by
  rw [run_append]
  rfl

theorem run_skip (step : σ → ι → σ × ο) (counts : ι → Bool) (state : σ) (inputs : List ι)
    (idle : ∀ state input, counts input = false → (step state input).1 = state) :
    (run step state inputs).1 = (run step state (inputs.filter counts)).1 := by
  induction inputs generalizing state with
  | nil => rfl
  | cons input rest ih =>
      cases counted : counts input with
      | true => rw [List.filter_cons_of_pos counted, run_cons, run_cons, ih]
      | false =>
          have skipped : ¬ counts input = true := by simp [counted]
          rw [List.filter_cons_of_neg skipped, run_cons, ih, idle state input counted]

-- A sequence of inputs that the reference machine takes, each in the state in
-- which it arrives.
def Admitted (reference : τ → ι → τ × ο) (admits : τ → ι → Prop) : τ → List ι → Prop
  | _, [] => True
  | spec, input :: rest => admits spec input ∧ Admitted reference admits (reference spec input).1 rest

theorem always_admitted (reference : τ → ι → τ × ο) (spec : τ) (inputs : List ι) :
    Admitted reference (fun _ _ => True) spec inputs := by
  induction inputs generalizing spec with
  | nil => trivial
  | cons input rest ih => exact ⟨trivial, ih _⟩

def Simulates (concrete : σ → ι → σ × ο) (reference : τ → ι → τ × ο) (admits : τ → ι → Prop)
    (related : σ → τ → Prop) : Prop :=
  ∀ state spec input, related state spec → admits spec input →
    related (concrete state input).1 (reference spec input).1 ∧ (concrete state input).2 = (reference spec input).2

theorem simulates_run (concrete : σ → ι → σ × ο) (reference : τ → ι → τ × ο) (admits : τ → ι → Prop)
    (related : σ → τ → Prop) (simulates : Simulates concrete reference admits related) (state : σ) (spec : τ)
    (inputs : List ι) (start : related state spec) (admitted : Admitted reference admits spec inputs) :
    related (run concrete state inputs).1 (run reference spec inputs).1 ∧
      (run concrete state inputs).2 = (run reference spec inputs).2 := by
  induction inputs generalizing state spec with
  | nil => exact ⟨start, rfl⟩
  | cons input rest ih =>
      obtain ⟨now, later⟩ := admitted
      obtain ⟨next, same⟩ := simulates state spec input start now
      obtain ⟨last, answers⟩ := ih _ _ next later
      rw [run_cons, run_cons, same, answers]
      exact ⟨last, rfl⟩

theorem simulates_run_up_to (concrete : σ → ι → σ × ο) (reference : τ → ι → τ × ο) (admits : τ → ι → Prop)
    (related : σ → τ → Prop) (agree : ο → ο → Prop)
    (simulates : ∀ state spec input, related state spec → admits spec input →
      related (concrete state input).1 (reference spec input).1 ∧
        agree (concrete state input).2 (reference spec input).2)
    (state : σ) (spec : τ) (inputs : List ι) (start : related state spec)
    (admitted : Admitted reference admits spec inputs) :
    List.Forall₂ agree (run concrete state inputs).2 (run reference spec inputs).2 := by
  induction inputs generalizing state spec with
  | nil => exact .nil
  | cons input rest ih =>
      obtain ⟨now, later⟩ := admitted
      obtain ⟨next, same⟩ := simulates state spec input start now
      rw [run_cons, run_cons]
      exact .cons same (ih _ _ next later)

end Machine

section Iterate

variable {σ : Type}

theorem iterate_invariant (step : σ → σ) (invariant : σ → Prop)
    (preserved : ∀ state, invariant state → invariant (step state)) (state : σ) (start : invariant state) (count : Nat) :
    invariant (step^[count] state) := by
  induction count generalizing state with
  | zero => exact start
  | succ count ih =>
      rw [Function.iterate_succ_apply]
      exact ih (step state) (preserved state start)

end Iterate

section Trace

variable {σ ι ε : Type}

-- A system of several parties: a step is taken by one of them, when it can
-- be, and leaves its events in the trace.
def exec (step : σ → ι → Option (σ × List ε)) : σ → List ι → Option (σ × List ε)
  | state, [] => some (state, [])
  | state, input :: rest =>
      match step state input with
      | none => none
      | some (next, events) =>
          match exec step next rest with
          | none => none
          | some (last, later) => some (last, events ++ later)

theorem exec_cons (step : σ → ι → Option (σ × List ε)) (state last : σ) (input : ι) (rest : List ι) (trace : List ε)
    (ran : exec step state (input :: rest) = some (last, trace)) :
    ∃ next events later, step state input = some (next, events) ∧ exec step next rest = some (last, later) ∧
      trace = events ++ later := by
  cases stepped : step state input with
  | none => simp [exec, stepped] at ran
  | some outcome =>
      obtain ⟨next, events⟩ := outcome
      cases continued : exec step next rest with
      | none => simp [exec, stepped, continued] at ran
      | some final =>
          obtain ⟨reached, later⟩ := final
          have same : reached = last ∧ events ++ later = trace := by simpa [exec, stepped, continued] using ran
          exact ⟨next, events, later, rfl, by rw [continued, same.1], same.2.symm⟩

theorem exec_append (step : σ → ι → Option (σ × List ε)) (state middle last : σ) (before after : List ι)
    (early late : List ε) (first : exec step state before = some (middle, early))
    (second : exec step middle after = some (last, late)) :
    exec step state (before ++ after) = some (last, early ++ late) := by
  induction before generalizing state early with
  | nil =>
      cases first
      simpa using second
  | cons input rest ih =>
      obtain ⟨next, events, later, stepped, continued, split⟩ := exec_cons step state middle input rest early first
      have whole := ih next later continued
      rw [List.cons_append, exec, stepped, split]
      simp [whole]

theorem exec_single (step : σ → ι → Option (σ × List ε)) (state next : σ) (input : ι) (events : List ε)
    (stepped : step state input = some (next, events)) : exec step state [input] = some (next, events) := by
  simp [exec, stepped]

theorem exec_erase (step : σ → ι → Option (σ × List ε)) (keep : ι → Bool) (keepEvent : ε → Bool)
    (harmless : ε → Prop) (related : σ → σ → Prop)
    (kept : ∀ state shadow input next events, related state shadow → keep input = true →
      step state input = some (next, events) →
      (∀ event ∈ events, keepEvent event = true) ∧
        ∃ moved, step shadow input = some (moved, events) ∧ related next moved)
    (dropped : ∀ state shadow input next events, related state shadow → keep input = false →
      step state input = some (next, events) → (∀ event ∈ events, harmless event) → related next shadow)
    (state shadow last : σ) (trace : List ε) (inputs : List ι) (start : related state shadow)
    (safe : ∀ event ∈ trace, keepEvent event = false → harmless event)
    (silent : ∀ state input next events, keep input = false → step state input = some (next, events) →
      ∀ event ∈ events, keepEvent event = false)
    (ran : exec step state inputs = some (last, trace)) :
    ∃ reached, exec step shadow (inputs.filter keep) = some (reached, trace.filter keepEvent) ∧ related last reached := by
  induction inputs generalizing state shadow trace with
  | nil =>
      cases ran
      exact ⟨shadow, rfl, start⟩
  | cons input rest ih =>
      obtain ⟨next, events, later, stepped, continued, split⟩ := exec_cons step state last input rest trace ran
      have laterSafe : ∀ event ∈ later, keepEvent event = false → harmless event :=
        fun event member => safe event (by simp [split, member])
      cases kind : keep input with
      | true =>
          obtain ⟨all, moved, followed, relatedNext⟩ := kept state shadow input next events start kind stepped
          obtain ⟨reached, erased, relatedLast⟩ := ih next moved later relatedNext laterSafe continued
          refine ⟨reached, ?_, relatedLast⟩
          have same : events.filter keepEvent = events := List.filter_eq_self.mpr all
          rw [List.filter_cons_of_pos kind, exec, followed, split, List.filter_append, same]
          simp [erased]
      | false =>
          have quiet := silent state input next events kind stepped
          have unseen : ∀ event ∈ events, harmless event :=
            fun event member => safe event (by simp [split, member]) (quiet event member)
          have relatedNext := dropped state shadow input next events start kind stepped unseen
          obtain ⟨reached, erased, relatedLast⟩ := ih next shadow later relatedNext laterSafe continued
          refine ⟨reached, ?_, relatedLast⟩
          have gone : events.filter keepEvent = [] :=
            List.filter_eq_nil_iff.mpr (fun event member => by simp [quiet event member])
          rw [List.filter_cons_of_neg (by simp [kind]), split, List.filter_append, gone, List.nil_append]
          exact erased

theorem exec_invariant (step : σ → ι → Option (σ × List ε)) (invariant : List ε → σ → Prop)
    (preserved : ∀ past state input next events, invariant past state → step state input = some (next, events) →
      invariant (past ++ events) next)
    (state last : σ) (past trace : List ε) (inputs : List ι) (start : invariant past state)
    (ran : exec step state inputs = some (last, trace)) : invariant (past ++ trace) last := by
  induction inputs generalizing state past trace with
  | nil =>
      cases ran
      simpa using start
  | cons input rest ih =>
      obtain ⟨next, events, later, stepped, continued, split⟩ := exec_cons step state last input rest trace ran
      have after := ih next (past ++ events) later (preserved past state input next events start stepped) continued
      rw [split, ← List.append_assoc]
      exact after

def Respects (step : σ → ι → Option (σ × List ε)) (permits : List ε → σ → ι → Prop) :
    List ε → σ → List ι → Prop
  | _, _, [] => True
  | past, state, input :: rest =>
      permits past state input ∧
        ∀ next events, step state input = some (next, events) → Respects step permits (past ++ events) next rest

instance respectsDecidable (step : σ → ι → Option (σ × List ε)) (permits : List ε → σ → ι → Prop)
    [∀ past state input, Decidable (permits past state input)] (past : List ε) (state : σ) (inputs : List ι) :
    Decidable (Respects step permits past state inputs) :=
  match inputs with
  | [] => .isTrue trivial
  | input :: rest =>
      match stepped : step state input with
      | none => decidable_of_iff (permits past state input) (by simp [Respects, stepped])
      | some (next, events) =>
          have later := respectsDecidable step permits (past ++ events) next rest
          decidable_of_iff (permits past state input ∧ Respects step permits (past ++ events) next rest)
            (by simp [Respects, stepped])

theorem respecting_invariant (step : σ → ι → Option (σ × List ε)) (permits : List ε → σ → ι → Prop)
    (invariant : List ε → σ → Prop)
    (preserved : ∀ past state input next events, invariant past state → permits past state input →
      step state input = some (next, events) → invariant (past ++ events) next)
    (state last : σ) (past trace : List ε) (inputs : List ι) (start : invariant past state)
    (respects : Respects step permits past state inputs) (ran : exec step state inputs = some (last, trace)) :
    invariant (past ++ trace) last := by
  induction inputs generalizing state past trace with
  | nil =>
      cases ran
      simpa using start
  | cons input rest ih =>
      obtain ⟨next, events, later, stepped, continued, split⟩ := exec_cons step state last input rest trace ran
      obtain ⟨permitted, onward⟩ := respects
      have after := ih next (past ++ events) later
        (preserved past state input next events start permitted stepped) (onward next events stepped) continued
      rw [split, ← List.append_assoc]
      exact after

theorem respects_before (step : σ → ι → Option (σ × List ε)) (permits : List ε → σ → ι → Prop) (past : List ε)
    (state : σ) (before after : List ι) (respects : Respects step permits past state (before ++ after)) :
    Respects step permits past state before := by
  induction before generalizing past state with
  | nil => trivial
  | cons input rest ih =>
      obtain ⟨permitted, onward⟩ := respects
      exact ⟨permitted, fun next events stepped => ih (past ++ events) next (onward next events stepped)⟩

def Always (fits : List ε → ε → Prop) (trace : List ε) : Prop :=
  ∀ before event after, trace = before ++ event :: after → fits before event

theorem always_nil (fits : List ε → ε → Prop) : Always fits [] := by
  intro before event after split
  simp at split

theorem always_snoc (fits : List ε → ε → Prop) (past : List ε) (event : ε) (always : Always fits past)
    (last : fits past event) : Always fits (past ++ [event]) := by
  intro before other after split
  cases List.append_eq_append_iff.mp split with
  | inl longer =>
      obtain ⟨gap, reached, rest⟩ := longer
      cases gap with
      | nil =>
          have same : event = other := (List.cons.inj rest).1
          rw [reached, List.append_nil, ← same]
          exact last
      | cons head tail => simp at rest
  | inr shorter =>
      obtain ⟨gap, reached, rest⟩ := shorter
      cases gap with
      | nil =>
          have same : other = event := (List.cons.inj rest).1
          rw [List.append_nil] at reached
          rw [← reached, same]
          exact last
      | cons head tail =>
          have same : other = head := (List.cons.inj rest).1
          exact same ▸ always before head tail reached

theorem always_snoc_iff (fits : List ε → ε → Prop) (past : List ε) (event : ε) :
    Always fits (past ++ [event]) ↔ Always fits past ∧ fits past event := by
  constructor
  · intro always
    refine ⟨?_, always past event [] rfl⟩
    intro before other after split
    exact always before other (after ++ [event]) (by rw [split, List.append_assoc, List.cons_append])
  · rintro ⟨always, last⟩
    exact always_snoc fits past event always last

theorem always_cons_iff (fits : List ε → ε → Prop) (event : ε) (rest : List ε) :
    Always fits (event :: rest) ↔ fits [] event ∧ Always (fun before => fits (event :: before)) rest := by
  constructor
  · intro always
    refine ⟨always [] event rest rfl, ?_⟩
    intro before other after split
    exact always (event :: before) other after (by rw [split, List.cons_append])
  · rintro ⟨first, later⟩ before other after split
    cases before with
    | nil =>
        cases split
        exact first
    | cons head tail =>
        cases split
        exact later tail other after rfl

theorem always_pair (fits : List ε → ε → Prop) (past : List ε) (first second : ε) (always : Always fits past)
    (one : fits past first) (two : fits (past ++ [first]) second) : Always fits (past ++ [first, second]) := by
  have both := always_snoc fits (past ++ [first]) second (always_snoc fits past first always one) two
  rwa [List.append_assoc] at both

end Trace

end Chassis.Transition
