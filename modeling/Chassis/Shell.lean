import Mathlib.Logic.Basic
import Mathlib.Order.Notation

set_option autoImplicit false

namespace Chassis.Shell

inductive Ending (α : Type) where
  | value (result : α)
  | exited (code : Nat)
  | killed
deriving DecidableEq

-- A script that runs off its end exits with 0.
def Ending.exitCode : Ending Unit → Option Nat
  | .value () => some 0
  | .exited code => some code
  | .killed => none

structure Ran (σ ω α : Type) where
  ending : Ending α
  world : σ
  answers : List ω

-- A script takes the answer of each of its commands from the list it is run
-- with, and is killed before the first command that finds the list empty.
def Script (σ ω α : Type) := σ → List ω → Ran σ ω α

section Commands

variable {σ ω α β ρ : Type}

def result (a : α) : Script σ ω α := fun world answers => ⟨.value a, world, answers⟩

def andThen (script : Script σ ω α) (next : α → Script σ ω β) : Script σ ω β := fun world answers =>
  match script world answers with
  | ⟨.value a, later, rest⟩ => next a later rest
  | ⟨.exited code, later, rest⟩ => ⟨.exited code, later, rest⟩
  | ⟨.killed, later, rest⟩ => ⟨.killed, later, rest⟩

instance : Monad (Script σ ω) where
  pure := result
  bind := andThen

def exit (code : Nat) : Script σ ω α := fun world answers => ⟨.exited code, world, answers⟩

def act (perform : σ → ω → σ × ρ) : Script σ ω ρ := fun world answers =>
  match answers with
  | [] => ⟨.killed, world, []⟩
  | answer :: rest => ⟨.value (perform world answer).2, (perform world answer).1, rest⟩

def orElse (again : Script σ ω α) : Option α → Script σ ω α
  | some a => result a
  | none => again

def iterate (body : Script σ ω (Option α)) : Nat → Script σ ω α
  | 0 => fun world answers => ⟨.killed, world, answers⟩
  | rounds + 1 => body >>= orElse (iterate body rounds)

-- Where every round uses up an answer, there are never more rounds than these.
def loop (body : Script σ ω (Option α)) : Script σ ω α := fun world answers =>
  iterate body (answers.length + 1) world answers

end Commands

section Rules

variable {σ ω α β ρ : Type}

def Ends (post : α → σ → Prop) (exits : Nat → σ → Prop) (killed : σ → Prop) (ran : Ran σ ω α) : Prop :=
  match ran.ending with
  | .value a => post a ran.world
  | .exited code => exits code ran.world
  | .killed => killed ran.world

def Ensures (pre : σ → Prop) (script : Script σ ω α) (post : α → σ → Prop) (exits : Nat → σ → Prop)
    (killed : σ → Prop) : Prop :=
  ∀ world answers, pre world → Ends post exits killed (script world answers)

variable {pre : σ → Prop} {exits : Nat → σ → Prop} {killed : σ → Prop}

theorem ensures_result (post : α → σ → Prop) (a : α) (holds : ∀ world, pre world → post a world) :
    Ensures pre (pure a : Script σ ω α) post exits killed := by
  intro world _ before
  exact holds world before

theorem ensures_exit (post : α → σ → Prop) (code : Nat) (holds : ∀ world, pre world → exits code world) :
    Ensures pre (exit code : Script σ ω α) post exits killed := by
  intro world _ before
  exact holds world before

theorem ensures_act (post : ρ → σ → Prop) (perform : σ → ω → σ × ρ) (stopped : ∀ world, pre world → killed world)
    (holds : ∀ world answer, pre world → post (perform world answer).2 (perform world answer).1) :
    Ensures pre (act perform) post exits killed := by
  intro world answers before
  cases answers with
  | nil => exact stopped world before
  | cons answer rest => exact holds world answer before

theorem ensures_bind (script : Script σ ω α) (next : α → Script σ ω β) (middle : α → σ → Prop)
    (post : β → σ → Prop) (first : Ensures pre script middle exits killed)
    (second : ∀ a, Ensures (middle a) (next a) post exits killed) :
    Ensures pre (script >>= next) post exits killed := by
  intro world answers before
  have done := first world answers before
  change Ends post exits killed (andThen script next world answers)
  rcases ran : script world answers with ⟨ending, later, rest⟩
  rw [ran] at done
  cases ending with
  | value a =>
      simp only [andThen, ran]
      exact second a later rest done
  | exited code =>
      simp only [andThen, ran]
      exact done
  | killed =>
      simp only [andThen, ran]
      exact done

theorem ensures_weaken (script : Script σ ω α) (tighter post : α → σ → Prop)
    (spec : Ensures pre script tighter exits killed) (after : ∀ a world, tighter a world → post a world) :
    Ensures pre script post exits killed := by
  intro world answers before
  have done := spec world answers before
  rcases ran : script world answers with ⟨ending, later, rest⟩
  rw [ran] at done
  cases ending with
  | value a => exact after a later done
  | exited code => exact done
  | killed => exact done

theorem ensures_from (script : Script σ ω α) (stronger : σ → Prop) (post : α → σ → Prop)
    (spec : Ensures stronger script post exits killed) (before : ∀ world, pre world → stronger world) :
    Ensures pre script post exits killed :=
  fun world answers holds => spec world answers (before world holds)

theorem ensures_if (condition : Prop) [Decidable condition] (yes no : Script σ ω α) (post : α → σ → Prop)
    (whenTrue : condition → Ensures pre yes post exits killed)
    (whenFalse : ¬condition → Ensures pre no post exits killed) :
    Ensures pre (if condition then yes else no) post exits killed := by
  by_cases holds : condition
  · rw [if_pos holds]
    exact whenTrue holds
  · rw [if_neg holds]
    exact whenFalse holds

theorem ensures_iterate (body : Script σ ω (Option α)) (post : α → σ → Prop)
    (stopped : ∀ world, pre world → killed world)
    (round : Ensures pre body (fun found world => match found with
      | some a => post a world
      | none => pre world) exits killed) (rounds : Nat) :
    Ensures pre (iterate body rounds) post exits killed := by
  induction rounds with
  | zero => exact fun world _ before => stopped world before
  | succ rounds ih =>
      refine ensures_bind body _ _ post round ?_
      intro found
      cases found with
      | some a => exact ensures_result post a (fun _ done => done)
      | none => exact ih

theorem ensures_loop (body : Script σ ω (Option α)) (post : α → σ → Prop)
    (stopped : ∀ world, pre world → killed world)
    (round : Ensures pre body (fun found world => match found with
      | some a => post a world
      | none => pre world) exits killed) :
    Ensures pre (loop body) post exits killed :=
  fun world answers before => ensures_iterate body post stopped round (answers.length + 1) world answers before

end Rules

end Chassis.Shell
