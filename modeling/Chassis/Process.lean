import Mathlib.Data.List.Forall2

set_option autoImplicit false

namespace Chassis.Process

-- What a coroutine does next. It learns whether its send was refused and with
-- which exception, and what its receive gave. A record is noted on the side.
inductive Coroutine (μ ρ ε ω : Type) where
  | returns
  | raises (error : ε)
  | sends (message : μ) (next : Option ε → Coroutine μ ρ ε ω)
  | receives (next : Except ε ρ → Coroutine μ ρ ε ω)
  | notes (record : ω) (next : Coroutine μ ρ ε ω)

inductive Event (μ ρ ε ω : Type) where
  | sent (message : μ) (refusal : Option ε)
  | received (answer : Except ε ρ)
  | noted (record : ω)

section Runs

variable {μ ρ ε ω : Type}

-- A run to the end, in whatever way the other side answers: the events in
-- order, and the exception that comes out, if any.
inductive Runs : Coroutine μ ρ ε ω → List (Event μ ρ ε ω) → Option ε → Prop where
  | returns : Runs .returns [] none
  | raises (error : ε) : Runs (.raises error) [] (some error)
  | sends (message : μ) (next : Option ε → Coroutine μ ρ ε ω) (refusal : Option ε) (trace : List (Event μ ρ ε ω))
      (outcome : Option ε) (later : Runs (next refusal) trace outcome) :
      Runs (.sends message next) (.sent message refusal :: trace) outcome
  | receives (next : Except ε ρ → Coroutine μ ρ ε ω) (answer : Except ε ρ) (trace : List (Event μ ρ ε ω))
      (outcome : Option ε) (later : Runs (next answer) trace outcome) :
      Runs (.receives next) (.received answer :: trace) outcome
  | notes (record : ω) (next : Coroutine μ ρ ε ω) (trace : List (Event μ ρ ε ω)) (outcome : Option ε)
      (later : Runs next trace outcome) : Runs (.notes record next) (.noted record :: trace) outcome

def conclude : Option ε → Coroutine μ ρ ε ω
  | none => .returns
  | some error => .raises error

def sendAll : List μ → Coroutine μ ρ ε ω
  | [] => .returns
  | message :: rest => .sends message (fun refusal =>
      match refusal with
      | none => sendAll rest
      | some error => .raises error)

def acceptedRun (answer : Except ε ρ) : Coroutine μ ρ ε ω → List (Event μ ρ ε ω) × Option ε
  | .returns => ([], none)
  | .raises error => ([], some error)
  | .sends message next => (.sent message none :: (acceptedRun answer (next none)).1, (acceptedRun answer (next none)).2)
  | .receives next => (.received answer :: (acceptedRun answer (next answer)).1, (acceptedRun answer (next answer)).2)
  | .notes record next => (.noted record :: (acceptedRun answer next).1, (acceptedRun answer next).2)

theorem accepted_runs (answer : Except ε ρ) (body : Coroutine μ ρ ε ω) :
    Runs body (acceptedRun answer body).1 (acceptedRun answer body).2 := by
  induction body with
  | returns => exact .returns
  | raises error => exact .raises error
  | sends message next ih => exact .sends message next none _ _ (ih none)
  | receives next ih => exact .receives next answer _ _ (ih answer)
  | notes record next ih => exact .notes record next _ _ ih

theorem conclude_runs (ended outcome : Option ε) (trace : List (Event μ ρ ε ω)) (ran : Runs (conclude ended) trace outcome) :
    trace = [] ∧ outcome = ended := by
  cases ended with
  | none =>
      cases ran
      exact ⟨rfl, rfl⟩
  | some error =>
      cases ran
      exact ⟨rfl, rfl⟩

theorem send_all_runs (messages : List μ) (trace : List (Event μ ρ ε ω)) (outcome : Option ε)
    (ran : Runs (sendAll messages) trace outcome) :
    (outcome = none ∧ trace = messages.map (fun message => .sent message none)) ∨
      ∃ before message after error, messages = before ++ message :: after ∧ outcome = some error ∧
        trace = before.map (fun message => .sent message none) ++ [.sent message (some error)] := by
  induction messages generalizing trace with
  | nil =>
      cases ran
      exact .inl ⟨rfl, rfl⟩
  | cons message rest ih =>
      cases ran with
      | sends _ _ refusal later _ onward =>
          cases refusal with
          | some error =>
              cases onward
              exact .inr ⟨[], message, rest, error, rfl, rfl, rfl⟩
          | none =>
              obtain ⟨ended, sent⟩ | ⟨before, last, after, error, split, ended, sent⟩ := ih later onward
              · exact .inl ⟨ended, by rw [sent]; rfl⟩
              · exact .inr ⟨message :: before, last, after, error, by rw [split]; rfl, ended, by rw [sent]; rfl⟩

end Runs

section Wrap

variable {μ ρ ε ω σ : Type}

-- A coroutine behind a send wrapper, which keeps a state and may change a
-- message or raise in its place, and what is done when it has ended.
def wrap (onSend : σ → μ → σ × Except ε μ) (finish : σ → Option ε → Coroutine μ ρ ε ω) :
    Coroutine μ ρ ε ω → σ → Coroutine μ ρ ε ω
  | .returns, state => finish state none
  | .raises error, state => finish state (some error)
  | .sends message next, state =>
      match onSend state message with
      | (after, .ok passed) => .sends passed (fun refusal => wrap onSend finish (next refusal) after)
      | (after, .error error) => wrap onSend finish (next (some error)) after
  | .receives next, state => .receives (fun answer => wrap onSend finish (next answer) state)
  | .notes record next, state => .notes record (wrap onSend finish next state)

-- What is seen outside a wrapper of what happens inside.
inductive Passed (onSend : σ → μ → σ × Except ε μ) :
    σ → List (Event μ ρ ε ω) → σ → List (Event μ ρ ε ω) → Prop where
  | nil (state : σ) : Passed onSend state [] state []
  | sent (state after last : σ) (message passed : μ) (refusal : Option ε) (inner outer : List (Event μ ρ ε ω))
      (wrapped : onSend state message = (after, .ok passed)) (later : Passed onSend after inner last outer) :
      Passed onSend state (.sent message refusal :: inner) last (.sent passed refusal :: outer)
  | stopped (state after last : σ) (message : μ) (error : ε) (inner outer : List (Event μ ρ ε ω))
      (wrapped : onSend state message = (after, .error error)) (later : Passed onSend after inner last outer) :
      Passed onSend state (.sent message (some error) :: inner) last outer
  | received (state last : σ) (answer : Except ε ρ) (inner outer : List (Event μ ρ ε ω))
      (later : Passed onSend state inner last outer) :
      Passed onSend state (.received answer :: inner) last (.received answer :: outer)
  | noted (state last : σ) (record : ω) (inner outer : List (Event μ ρ ε ω))
      (later : Passed onSend state inner last outer) :
      Passed onSend state (.noted record :: inner) last (.noted record :: outer)

variable (onSend : σ → μ → σ × Except ε μ) (finish : σ → Option ε → Coroutine μ ρ ε ω)

theorem wrap_runs (body : Coroutine μ ρ ε ω) (state : σ) (trace : List (Event μ ρ ε ω)) (outcome : Option ε)
    (ran : Runs (wrap onSend finish body state) trace outcome) :
    ∃ inner ended last outer rest, Runs body inner ended ∧ Passed onSend state inner last outer ∧
      Runs (finish last ended) rest outcome ∧ trace = outer ++ rest := by
  induction body generalizing state trace with
  | returns => exact ⟨[], none, state, [], trace, .returns, .nil state, ran, rfl⟩
  | raises error => exact ⟨[], some error, state, [], trace, .raises error, .nil state, ran, rfl⟩
  | sends message next ih =>
      rw [wrap] at ran
      cases wrapped : onSend state message with
      | mk after result =>
          cases result with
          | ok passed =>
              rw [wrapped] at ran
              cases ran with
              | sends _ _ refusal later _ onward =>
                  obtain ⟨inner, ended, last, outer, rest, innerRan, through, concluded, split⟩ :=
                    ih refusal after later onward
                  exact ⟨.sent message refusal :: inner, ended, last, .sent passed refusal :: outer, rest,
                    .sends message next refusal inner ended innerRan, .sent _ _ _ _ _ _ _ _ wrapped through, concluded,
                    by rw [split]; rfl⟩
          | error error =>
              rw [wrapped] at ran
              obtain ⟨inner, ended, last, outer, rest, innerRan, through, concluded, split⟩ :=
                ih (some error) after trace ran
              exact ⟨.sent message (some error) :: inner, ended, last, outer, rest,
                .sends message next (some error) inner ended innerRan, .stopped _ _ _ _ _ _ _ wrapped through,
                concluded, split⟩
  | receives next ih =>
      cases ran with
      | receives _ answer later _ onward =>
          obtain ⟨inner, ended, last, outer, rest, innerRan, through, concluded, split⟩ := ih answer state later onward
          exact ⟨.received answer :: inner, ended, last, .received answer :: outer, rest,
            .receives next answer inner ended innerRan, .received _ _ _ _ _ through, concluded, by rw [split]; rfl⟩
  | notes record next ih =>
      cases ran with
      | notes _ _ later _ onward =>
          obtain ⟨inner, ended, last, outer, rest, innerRan, through, concluded, split⟩ := ih state later onward
          exact ⟨.noted record :: inner, ended, last, .noted record :: outer, rest, .notes record next inner ended innerRan,
            .noted _ _ _ _ _ through, concluded, by rw [split]; rfl⟩

variable {onSend}

theorem wrap_concluded (body : Coroutine μ ρ ε ω) (state : σ) (trace : List (Event μ ρ ε ω)) (outcome : Option ε)
    (ran : Runs (wrap onSend (fun _ ended => conclude ended) body state) trace outcome) :
    ∃ inner last, Runs body inner outcome ∧ Passed onSend state inner last trace := by
  obtain ⟨inner, ended, last, outer, rest, innerRan, through, concluded, split⟩ := wrap_runs onSend _ body state trace outcome ran
  obtain ⟨rfl, rfl⟩ := conclude_runs ended outcome rest concluded
  rw [List.append_nil] at split
  exact ⟨inner, last, innerRan, split ▸ through⟩

def sentMessages (trace : List (Event μ ρ ε ω)) : List μ :=
  trace.filterMap (fun event => match event with
    | .sent message _ => some message
    | _ => none)

inductive Related (change : μ → μ → Prop) : Event μ ρ ε ω → Event μ ρ ε ω → Prop where
  | sent (message passed : μ) (refusal : Option ε) (changed : change message passed) :
      Related change (.sent message refusal) (.sent passed refusal)
  | received (answer : Except ε ρ) : Related change (.received answer) (.received answer)
  | noted (record : ω) : Related change (.noted record) (.noted record)

theorem passed_lockstep (step : σ → μ → σ) (admits : μ → Prop) (change : μ → μ → Prop)
    (wraps : ∀ state message, admits message →
      ∃ passed, onSend state message = (step state message, .ok passed) ∧ change message passed)
    (state last : σ) (inner outer : List (Event μ ρ ε ω)) (through : Passed onSend state inner last outer)
    (admitted : ∀ message ∈ sentMessages inner, admits message) :
    List.Forall₂ (Related change) inner outer ∧ last = (sentMessages inner).foldl step state := by
  induction through with
  | nil state => exact ⟨.nil, rfl⟩
  | sent state after last message passed refusal inner outer wrapped later ih =>
      obtain ⟨same, whole, changed⟩ := wraps state message (admitted message (List.mem_cons_self ..))
      rw [wrapped] at whole
      cases whole
      obtain ⟨related, folded⟩ := ih (fun other member => admitted other (List.mem_cons_of_mem _ member))
      exact ⟨.cons (.sent message passed refusal changed) related, folded⟩
  | stopped state after last message error inner outer wrapped later ih =>
      obtain ⟨passed, whole, _⟩ := wraps state message (admitted message (List.mem_cons_self ..))
      rw [wrapped] at whole
      cases whole
  | received state last answer inner outer later ih =>
      obtain ⟨related, folded⟩ := ih admitted
      exact ⟨.cons (.received answer) related, folded⟩
  | noted state last record inner outer later ih =>
      obtain ⟨related, folded⟩ := ih admitted
      exact ⟨.cons (.noted record) related, folded⟩

theorem related_sent (change : μ → μ → Prop) (inner outer : List (Event μ ρ ε ω))
    (related : List.Forall₂ (Related change) inner outer) :
    ∀ passed ∈ sentMessages outer, ∃ message ∈ sentMessages inner, change message passed := by
  induction related with
  | nil => exact fun passed member => absurd member List.not_mem_nil
  | cons first later ih =>
      intro passed member
      cases first with
      | sent message other refusal changed =>
          cases List.mem_cons.mp member with
          | inl same => exact ⟨message, List.mem_cons_self .., same ▸ changed⟩
          | inr found =>
              obtain ⟨earlier, inside, related⟩ := ih passed found
              exact ⟨earlier, List.mem_cons_of_mem _ inside, related⟩
      | received answer => exact ih passed member
      | noted record => exact ih passed member

theorem related_same_sent {π : Type} (change : μ → μ → Prop) (read : μ → Option π)
    (unchanged : ∀ message passed, change message passed → read message = read passed)
    (inner outer : List (Event μ ρ ε ω)) (related : List.Forall₂ (Related change) inner outer) :
    (sentMessages inner).filterMap read = (sentMessages outer).filterMap read := by
  induction related with
  | nil => rfl
  | cons first later ih =>
      cases first with
      | sent message passed refusal changed =>
          have same := unchanged message passed changed
          simp only [sentMessages, List.filterMap_cons] at ih ⊢
          rw [same, ih]
      | received answer => exact ih
      | noted record => exact ih

theorem related_eq (inner outer : List (Event μ ρ ε ω)) (related : List.Forall₂ (Related Eq) inner outer) :
    inner = outer := by
  induction related with
  | nil => rfl
  | cons first later ih =>
      cases first with
      | sent message passed refusal changed => rw [changed, ih]
      | received answer => rw [ih]
      | noted record => rw [ih]

theorem related_trans (first second both : μ → μ → Prop)
    (compose : ∀ message middle passed, first message middle → second middle passed → both message passed)
    (inner between outer : List (Event μ ρ ε ω)) (early : List.Forall₂ (Related first) inner between)
    (late : List.Forall₂ (Related second) between outer) : List.Forall₂ (Related both) inner outer := by
  induction early generalizing outer with
  | nil =>
      cases late
      exact .nil
  | cons one others ih =>
      cases late with
      | cons next rest =>
          refine .cons ?_ (ih _ rest)
          cases one with
          | sent message middle refusal changed =>
              cases next with
              | sent _ passed _ again => exact .sent message passed refusal (compose message middle passed changed again)
          | received answer =>
              cases next
              exact .received answer
          | noted record =>
              cases next
              exact .noted record

theorem related_noted (change : μ → μ → Prop) (inner outer : List (Event μ ρ ε ω)) (record : ω)
    (related : List.Forall₂ (Related change) (inner ++ [.noted record]) outer) :
    ∃ before, outer = before ++ [.noted record] ∧ List.Forall₂ (Related change) inner before := by
  induction inner generalizing outer with
  | nil =>
      cases related with
      | cons first rest =>
          cases first
          cases rest
          exact ⟨[], rfl, .nil⟩
  | cons event rest ih =>
      cases related with
      | cons first later =>
          obtain ⟨before, split, same⟩ := ih _ later
          exact ⟨_ :: before, by rw [split]; rfl, .cons first same⟩

end Wrap

end Chassis.Process
