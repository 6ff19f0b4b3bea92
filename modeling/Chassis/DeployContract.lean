import Chassis.Deploy

set_option autoImplicit false

namespace Chassis.Deploy

open Shell

abbrev Step := Call × Outcome

abbrev Trace := List Step

def record (past : Trace) (call : Call) (outcome : Outcome) : Trace × Outcome := (past ++ [(call, outcome)], outcome)

def Did (call : Call) (good : Outcome → Bool) (trace : Trace) : Prop :=
  ∃ step ∈ trace, step.1 = call ∧ good step.2 = true

instance (call : Call) (good : Outcome → Bool) (trace : Trace) : Decidable (Did call good trace) :=
  inferInstanceAs (Decidable (∃ step ∈ trace, step.1 = call ∧ good step.2 = true))

def Outcome.healthy (outcome : Outcome) : Bool := outcome.output == "healthy".toList

def PassedInside (place : Place) (container : Str) (trace : Trace) : Prop :=
  Did ⟨place, true, .status container⟩ Outcome.healthy trace ∧ Did ⟨place, true, .probe container⟩ Outcome.ok trace

def Steady (trace : Trace) : Prop :=
  ∀ step ∈ trace, step.1.place ≠ .rollback ∧ (step.1.guarded = true ∨ step.2.ok = true)

def Preparing (trace : Trace) : Prop := ∀ step ∈ trace, step.1.place = .prepare

structure Contract where
  verified : Trace → Prop
  takenDown : Trace → Prop
  restored : Trace → Prop
  recoverable : Trace → Prop
  untouched : ∀ trace, Preparing trace → ¬takenDown trace
  unbroken : ∀ trace, Steady trace → recoverable trace
  broken : ∀ past call outcome, Steady past → call.place ≠ .rollback → call.guarded = false → outcome.ok = false →
    ¬restored (past ++ [(call, outcome)]) ∧ ¬recoverable (past ++ [(call, outcome)])

namespace Contract

variable (contract : Contract)

def Kept (code : Nat) (trace : Trace) : Prop :=
  (code = 0 → contract.verified trace) ∧ (code ≠ 0 → contract.takenDown trace → contract.restored trace)

def Exact (code : Nat) (trace : Trace) : Prop :=
  contract.Kept code trace ↔ (contract.takenDown trace → contract.recoverable trace)

def Settled (trace : Trace) : Prop := contract.restored trace ↔ contract.recoverable trace

theorem exact_verified (trace : Trace) (steady : Steady trace) (verified : contract.verified trace) :
    contract.Exact 0 trace := by
  constructor
  · exact fun _ _ => contract.unbroken trace steady
  · exact fun _ => ⟨fun _ => verified, fun nonzero => absurd rfl nonzero⟩

theorem exact_settled (code : Nat) (trace : Trace) (failed : code ≠ 0) (settled : contract.Settled trace) :
    contract.Exact code trace := by
  constructor
  · exact fun kept down => settled.mp (kept.2 failed down)
  · exact fun recovers => ⟨fun zero => absurd zero failed, fun _ down => settled.mpr (recovers down)⟩

theorem exact_preparing (code : Nat) (trace : Trace) (failed : code ≠ 0) (preparing : Preparing trace) :
    contract.Exact code trace := by
  have untouched := contract.untouched trace preparing
  constructor
  · exact fun _ down => absurd down untouched
  · exact fun _ => ⟨fun zero => absurd zero failed, fun _ down => absurd down untouched⟩

end Contract

def Outcome.prints (text : Str) (outcome : Outcome) : Bool := outcome.ok && outcome.output == text

def Outcome.issued (_ : Outcome) : Bool := true

theorem code_nonzero (outcome : Outcome) (failed : outcome.ok = false) : outcome.code ≠ 0 := by
  simpa [Outcome.ok] using failed

theorem did_here (past : Trace) (call : Call) (outcome : Outcome) (good : Outcome → Bool)
    (holds : good outcome = true) : Did call good (past ++ [(call, outcome)]) :=
  ⟨(call, outcome), by simp, rfl, holds⟩

theorem did_snoc (past : Trace) (call : Call) (outcome : Outcome) (wanted : Call) (good : Outcome → Bool) :
    Did wanted good (past ++ [(call, outcome)]) ↔ Did wanted good past ∨ (call = wanted ∧ good outcome = true) := by
  simp [Did, or_and_right, exists_or]

def Lasting (fact : Trace → Prop) : Prop := ∀ past step, fact past → fact (past ++ [step])

theorem did_lasting (call : Call) (good : Outcome → Bool) : Lasting (Did call good) := by
  intro past step did
  obtain ⟨earlier, member, same, holds⟩ := did
  exact ⟨earlier, List.mem_append_left _ member, same, holds⟩

theorem lasting_and (left right : Trace → Prop) (first : Lasting left) (second : Lasting right) :
    Lasting (fun trace => left trace ∧ right trace) :=
  fun past step both => ⟨first past step both.1, second past step both.2⟩

theorem passed_inside_lasting (place : Place) (container : Str) : Lasting (PassedInside place container) :=
  lasting_and _ _ (did_lasting _ _) (did_lasting _ _)

theorem steady_snoc (past : Trace) (call : Call) (outcome : Outcome) (steady : Steady past)
    (place : call.place ≠ .rollback) (passes : call.guarded = true ∨ outcome.ok = true) :
    Steady (past ++ [(call, outcome)]) := by
  intro step member
  rcases List.mem_append.mp member with earlier | last
  · exact steady step earlier
  · rw [List.mem_singleton.mp last]
    exact ⟨place, passes⟩

theorem steady_not_did (trace : Trace) (steady : Steady trace) (call : Call) (good : Outcome → Bool)
    (inside : call.place = .rollback) : ¬Did call good trace := by
  rintro ⟨step, member, same, _⟩
  exact (steady step member).1 (same ▸ inside)

section Phases

variable (contract : Contract)

def Meets {α : Type} (fact : Trace → Prop) (script : Script Trace Outcome α) (post : α → Trace → Prop) : Prop :=
  Ensures (fun trace => Steady trace ∧ fact trace) script post contract.Exact (fun _ => True)

variable {contract} {fact : Trace → Prop}

theorem meets_learned {α : Type} (learned : Trace → Prop) (script : Script Trace Outcome α) (post : α → Trace → Prop)
    (meets : Meets contract (fun trace => fact trace ∧ learned trace) script post) :
    Ensures (fun trace => (Steady trace ∧ fact trace) ∧ learned trace) script post contract.Exact (fun _ => True) :=
  ensures_from script _ post meets (fun _ before => ⟨before.1.1, before.1.2, before.2⟩)

theorem meets_learned_if {α : Type} (condition : Prop) (holds : condition) (learned : Trace → Prop)
    (script : Script Trace Outcome α) (post : α → Trace → Prop)
    (meets : Meets contract (fun trace => fact trace ∧ learned trace) script post) :
    Ensures (fun trace => (Steady trace ∧ fact trace) ∧ (condition → learned trace)) script post contract.Exact
      (fun _ => True) :=
  ensures_from script _ post meets (fun _ before => ⟨before.1.1, before.1.2, before.2 holds⟩)

theorem meets_forgotten {α : Type} (forgotten : Trace → Prop) (script : Script Trace Outcome α)
    (post : α → Trace → Prop) (meets : Meets contract (fun _ => True) script post) :
    Ensures (fun trace => (Steady trace ∧ fact trace) ∧ forgotten trace) script post contract.Exact (fun _ => True) :=
  ensures_from script _ post meets (fun _ before => ⟨before.1.1, trivial⟩)

theorem meets_strict (place : Place) (command : Command) (lasting : Lasting fact) (outside : place ≠ .rollback) :
    Meets contract fact (strict record place command) (fun text trace => (Steady trace ∧ fact trace) ∧
      Did ⟨place, false, command⟩ (Outcome.prints text) trace) := by
  refine ensures_strict place command _ (fun _ _ => trivial) ?_ ?_
  · intro past outcome before ok
    have printed : Outcome.prints outcome.output outcome = true := by
      have succeeded : outcome.ok = true := ok
      simp [Outcome.prints, succeeded]
    exact ⟨⟨steady_snoc past _ outcome before.1 outside (.inr ok), lasting past _ before.2⟩,
      did_here past _ outcome _ printed⟩
  · intro past outcome before failed
    have broken := contract.broken past ⟨place, false, command⟩ outcome before.1 outside rfl failed
    exact contract.exact_settled _ _ (code_nonzero outcome failed)
      ⟨fun restored => absurd restored broken.1, fun recovers => absurd recovers broken.2⟩

theorem meets_guarded (place : Place) (command : Command) (past : Trace) (outcome : Outcome) (lasting : Lasting fact)
    (outside : place ≠ .rollback) (before : Steady past ∧ fact past) :
    Steady (past ++ [(⟨place, true, command⟩, outcome)]) ∧ fact (past ++ [(⟨place, true, command⟩, outcome)]) :=
  ⟨steady_snoc past _ outcome before.1 outside (.inl rfl), lasting past _ before.2⟩

theorem meets_attempt (place : Place) (command : Command) (lasting : Lasting fact) (outside : place ≠ .rollback) :
    Meets contract fact (attempt record place command) (fun ok trace => (Steady trace ∧ fact trace) ∧
      (ok = true → Did ⟨place, true, command⟩ Outcome.ok trace)) := by
  refine ensures_attempt place command _ (fun _ _ => trivial) ?_
  intro past outcome before
  exact ⟨meets_guarded place command past outcome lasting outside before, did_here past _ outcome _⟩

theorem meets_seconds (place : Place) (lasting : Lasting fact) (outside : place ≠ .rollback) :
    Meets contract fact (seconds record place) (fun _ trace => Steady trace ∧ fact trace) :=
  ensures_seconds place (fun _ _ => trivial)
    (fun past outcome before => meets_guarded place .seconds past outcome lasting outside before)

theorem meets_wait (place : Place) (container : Str) (deadline : Nat) (lasting : Lasting fact)
    (outside : place ≠ .rollback) :
    Meets contract fact (waitForReady record place container deadline) (fun ready trace =>
      (Steady trace ∧ fact trace) ∧ (ready = true → PassedInside place container trace)) := by
  refine ensures_weaken _ _ _ (ensures_wait place container deadline
    (fun trace => (Steady trace ∧ fact trace) ∧ Did ⟨place, true, .status container⟩ Outcome.healthy trace)
    (fun trace => (Steady trace ∧ fact trace) ∧ PassedInside place container trace)
    (fun _ _ => trivial) ?status ?probe ?idle) ?weaken
  case status =>
    intro past outcome before
    have after := meets_guarded place (.status container) past outcome lasting outside before
    exact ⟨after, fun reads => ⟨after, did_here past _ outcome _ (by simpa [Outcome.healthy, record] using reads)⟩⟩
  case probe =>
    intro past outcome before
    have after := meets_guarded place (.probe container) past outcome lasting outside before.1
    exact ⟨after, fun ok => ⟨after, did_lasting _ _ past _ before.2, did_here past _ outcome _ ok⟩⟩
  case idle => exact fun past outcome command _ before => meets_guarded place command past outcome lasting outside before
  case weaken =>
    intro ready trace done
    cases ready with
    | true => exact ⟨done.1, fun _ => done.2⟩
    | false => exact ⟨done, fun impossible => absurd impossible (by simp)⟩

def Finishes (contract : Contract) (fact : Trace → Prop) (script : Script Trace Outcome Unit) : Prop :=
  Meets contract fact script (fun _ => contract.Exact 0)

theorem finishes_settled {α : Type} (rollback : Script Trace Outcome α)
    (settles : Ensures (fun trace => Steady trace ∧ fact trace) rollback (fun _ => contract.Settled) contract.Exact
      (fun _ => True)) : Finishes contract fact (rollback >>= fun _ => exit 1) :=
  ensures_bind _ _ _ _ settles (fun _ =>
    ensures_exit _ 1 (fun trace settled => contract.exact_settled 1 trace (by simp) settled))

end Phases

section Preparation

variable (contract : Contract)

def Prepares {α : Type} (script : Script Trace Outcome α) : Prop :=
  Ensures (fun trace => Steady trace ∧ Preparing trace) script (fun _ trace => Steady trace ∧ Preparing trace)
    contract.Exact (fun _ => True)

theorem preparing_snoc (past : Trace) (guarded : Bool) (command : Command) (outcome : Outcome)
    (preparing : Preparing past) : Preparing (past ++ [(⟨.prepare, guarded, command⟩, outcome)]) := by
  intro step member
  rcases List.mem_append.mp member with earlier | last
  · exact preparing step earlier
  · rw [List.mem_singleton.mp last]

theorem prepares_bind {α β : Type} (script : Script Trace Outcome α) (next : α → Script Trace Outcome β)
    (first : Prepares contract script) (second : ∀ a, Prepares contract (next a)) :
    Prepares contract (script >>= next) :=
  ensures_bind script next _ _ first second

theorem prepares_result {α : Type} (a : α) : Prepares contract (pure a) := ensures_result _ a (fun _ before => before)

theorem prepares_failure (code : Nat) (failed : code ≠ 0) {α : Type} :
    Prepares contract (exit code : Script Trace Outcome α) :=
  ensures_exit _ code (fun trace before => contract.exact_preparing code trace failed before.2)

theorem prepares_guarded (command : Command) : Ensures (fun trace => Steady trace ∧ Preparing trace)
    (call record .prepare true command) (fun _ trace => Steady trace ∧ Preparing trace)
    contract.Exact (fun _ => True) :=
  ensures_call .prepare true command _ (fun _ _ => trivial) (fun past outcome before =>
    ⟨steady_snoc past _ outcome before.1 (by simp) (.inl rfl), preparing_snoc past true command outcome before.2⟩)

theorem prepares_attempt (command : Command) : Prepares contract (attempt record .prepare command) :=
  prepares_bind contract _ _ (prepares_guarded contract command) (fun outcome => prepares_result contract outcome.ok)

theorem prepares_capture (command : Command) : Prepares contract (capture record .prepare command) :=
  prepares_bind contract _ _ (prepares_guarded contract command) (fun outcome => prepares_result contract outcome.output)

theorem prepares_strict (command : Command) : Prepares contract (strict record .prepare command) := by
  refine ensures_strict .prepare command _ (fun _ _ => trivial) ?_ ?_
  · intro past outcome before ok
    exact ⟨steady_snoc past _ outcome before.1 (by simp) (.inr ok), preparing_snoc past false command outcome before.2⟩
  · intro past outcome before failed
    exact contract.exact_preparing _ _ (code_nonzero outcome failed) (preparing_snoc past false command outcome before.2)

theorem prepares_if {α : Type} (condition : Prop) [Decidable condition] (yes no : Script Trace Outcome α)
    (whenTrue : Prepares contract yes) (whenFalse : Prepares contract no) :
    Prepares contract (if condition then yes else no) :=
  ensures_if condition yes no _ (fun _ => whenTrue) (fun _ => whenFalse)

theorem require_image_name_prepares (env : Environment) : Prepares contract (requireImageName env) :=
  prepares_if contract _ _ _ (prepares_failure contract 1 (by simp)) (prepares_result contract ())

theorem require_file_prepares (path : Str) : Prepares contract (requireFile record path) :=
  prepares_bind contract _ _ (prepares_attempt contract (.testFile path)) (fun _ =>
    prepares_if contract _ _ _ (prepares_result contract ()) (prepares_failure contract 1 (by simp)))

theorem login_to_registry_prepares (env : Environment) : Prepares contract (loginToRegistry record env) :=
  prepares_if contract _ _ _
    (prepares_bind contract _ _ (prepares_strict contract _) (fun _ => prepares_result contract ()))
    (prepares_result contract ())

theorem deploys_exact {α : Type} (prepare : Script Trace Outcome α) (rest : Script Trace Outcome Unit)
    (prepares : Prepares contract prepare) (finishes : Finishes contract (fun _ => True) rest) :
    Ensures (fun trace => trace = []) (prepare >>= fun _ => rest) (fun _ => contract.Exact 0) contract.Exact
      (fun _ => True) := by
  have empty_ready : ∀ trace : Trace, trace = [] → Steady trace ∧ Preparing trace := by
    rintro _ rfl
    exact ⟨fun _ member => absurd member (by simp), fun _ member => absurd member (by simp)⟩
  refine ensures_bind _ _ _ _ (ensures_from _ _ _ prepares empty_ready) ?_
  exact fun _ => ensures_from _ _ _ finishes (fun _ done => ⟨done.1, trivial⟩)

theorem exits_exact (script : Script Trace Outcome Unit) (answers : List Outcome) (code : Nat)
    (exact : Ensures (fun trace => trace = []) script (fun _ => contract.Exact 0) contract.Exact (fun _ => True))
    (exited : (script [] answers).ending.exitCode = some code) : contract.Exact code (script [] answers).world := by
  have ended := exact [] answers rfl
  rcases ran : script [] answers with ⟨ending, trace, rest⟩
  rw [ran] at ended exited
  cases ending with
  | value result =>
      obtain rfl : 0 = code := Option.some.inj exited
      exact ended
  | exited status =>
      obtain rfl : status = code := Option.some.inj exited
      exact ended
  | killed => cases exited

end Preparation

end Chassis.Deploy
