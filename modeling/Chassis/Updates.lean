import Mathlib.Data.List.Perm.Basic
import Mathlib.Data.List.Pairwise

set_option autoImplicit false

namespace Chassis.Updates

-- A step that reads a value off the state, or refuses it, and puts the value
-- in its place.
structure Update (σ : Type) where
  Value : Type
  read : σ → Option Value
  put : Value → σ → σ

variable {σ : Type}

def Update.apply (update : Update σ) (state : σ) : Option σ := (update.read state).map (fun value => update.put value state)

def applyAll : List (Update σ) → σ → Option σ
  | [], state => some state
  | update :: rest, state => (update.apply state).bind (applyAll rest)

structure Independent (first second : Update σ) : Prop where
  firstUnseen : ∀ value state, first.read (second.put value state) = first.read state
  secondUnseen : ∀ value state, second.read (first.put value state) = second.read state
  apart : ∀ one other state, first.put one (second.put other state) = second.put other (first.put one state)

def Settled (update : Update σ) : Prop :=
  ∀ value state, update.read state = some value →
    update.read (update.put value state) = some value ∧ update.put value (update.put value state) = update.put value state

theorem independent_symm (first second : Update σ) (independent : Independent first second) : Independent second first :=
  ⟨independent.secondUnseen, independent.firstUnseen, fun one other state => (independent.apart other one state).symm⟩

theorem apply_swap (first second : Update σ) (independent : Independent first second) (state : σ) :
    (first.apply state).bind second.apply = (second.apply state).bind first.apply := by
  unfold Update.apply
  cases one : first.read state with
  | none =>
      cases other : second.read state with
      | none => rfl
      | some value => simp [independent.firstUnseen, one]
  | some value =>
      cases other : second.read state with
      | none => simp [independent.secondUnseen, other]
      | some second => simp [independent.secondUnseen, independent.firstUnseen, one, other, independent.apart]

theorem apply_all_perm (updates others : List (Update σ)) (perm : updates.Perm others)
    (independent : updates.Pairwise Independent) (state : σ) : applyAll updates state = applyAll others state := by
  induction perm generalizing state with
  | nil => rfl
  | cons update rest ih =>
      have later := (List.pairwise_cons.mp independent).2
      have same : applyAll _ = applyAll _ := funext (ih later)
      rw [applyAll, applyAll, same]
  | swap first second rest =>
      have both := (List.pairwise_cons.mp independent).1 first (List.mem_cons_self ..)
      have swapped := congrArg (fun reached => reached.bind (applyAll rest)) (apply_swap second first both state)
      simpa only [applyAll, Option.bind_assoc] using swapped
  | trans left right leftIh rightIh =>
      have between := (left.pairwise_iff (fun {one other} => independent_symm one other)).mp independent
      rw [leftIh independent, rightIh between]

theorem apply_all_some (updates : List (Update σ)) (independent : updates.Pairwise Independent) (state : σ) :
    (applyAll updates state).isSome ↔ ∀ update ∈ updates, (update.read state).isSome := by
  induction updates generalizing state with
  | nil => simp [applyAll]
  | cons update rest ih =>
      obtain ⟨apart, later⟩ := List.pairwise_cons.mp independent
      rw [applyAll, Update.apply, List.forall_mem_cons]
      cases read : update.read state with
      | none => simp
      | some value =>
          have unseen : (∀ other ∈ rest, (other.read (update.put value state)).isSome) ↔
              ∀ other ∈ rest, (other.read state).isSome := by
            apply forall₂_congr
            intro other member
            rw [(apart other member).secondUnseen]
          simp [ih later, unseen]

theorem fixed_past (update other : Update σ) (independent : Independent update other) (state next : σ)
    (fixed : update.apply state = some state) (taken : other.apply state = some next) : update.apply next = some next := by
  obtain ⟨value, read, same⟩ := Option.map_eq_some_iff.mp fixed
  obtain ⟨put, _, rfl⟩ := Option.map_eq_some_iff.mp taken
  rw [Update.apply, independent.firstUnseen, read, Option.map_some, independent.apart, same]

theorem fixed_past_all (update : Update σ) (others : List (Update σ)) (independent : ∀ other ∈ others, Independent update other)
    (state last : σ) (fixed : update.apply state = some state) (taken : applyAll others state = some last) :
    update.apply last = some last := by
  induction others generalizing state with
  | nil =>
      cases taken
      exact fixed
  | cons other rest ih =>
      obtain ⟨next, first, later⟩ := Option.bind_eq_some_iff.mp taken
      apply ih (fun more member => independent more (List.mem_cons_of_mem _ member)) next _ later
      exact fixed_past update other (independent other (List.mem_cons_self ..)) state next fixed first

theorem all_fixed (updates : List (Update σ)) (state : σ) (fixed : ∀ update ∈ updates, update.apply state = some state) :
    applyAll updates state = some state := by
  induction updates with
  | nil => rfl
  | cons update rest ih =>
      rw [applyAll, fixed update (List.mem_cons_self ..), Option.bind_some]
      exact ih (fun other member => fixed other (List.mem_cons_of_mem _ member))

theorem apply_all_settled (updates : List (Update σ)) (independent : updates.Pairwise Independent)
    (settled : ∀ update ∈ updates, Settled update) (state last : σ) (taken : applyAll updates state = some last) :
    ∀ update ∈ updates, update.apply last = some last := by
  induction updates generalizing state with
  | nil => exact fun update member => absurd member List.not_mem_nil
  | cons first rest ih =>
      obtain ⟨apart, later⟩ := List.pairwise_cons.mp independent
      obtain ⟨next, once, onward⟩ := Option.bind_eq_some_iff.mp taken
      intro update member
      cases List.mem_cons.mp member with
      | inr inRest => exact ih later (fun other found => settled other (List.mem_cons_of_mem _ found)) next onward update inRest
      | inl same =>
          rw [same]
          apply fixed_past_all first rest apart next last _ onward
          obtain ⟨value, read, rfl⟩ := Option.map_eq_some_iff.mp once
          obtain ⟨again, put⟩ := settled first (List.mem_cons_self ..) value state read
          rw [Update.apply, again, Option.map_some, put]

end Chassis.Updates
