import Mathlib.Data.List.Basic

set_option autoImplicit false

namespace Chassis.Lines

variable {α : Type}

def replaceLine (meant : α → Bool) (new : α) : List α → Option (List α)
  | [] => none
  | line :: rest => if meant line then some (new :: rest) else (replaceLine meant new rest).map (fun later => line :: later)

structure Found (meant : α → Bool) (lines : List α) where
  before : List α
  line : α
  after : List α
  whole : lines = before ++ line :: after
  skipped : ∀ other ∈ before, meant other = false
  hit : meant line = true

theorem replace_line_some (meant : α → Bool) (new : α) (lines edited : List α) :
    replaceLine meant new lines = some edited ↔ ∃ found : Found meant lines, edited = found.before ++ new :: found.after := by
  induction lines generalizing edited with
  | nil =>
      constructor
      · intro none
        cases none
      · rintro ⟨found, _⟩
        exact absurd found.whole (by simp)
  | cons line rest ih =>
      rw [replaceLine]
      by_cases hit : meant line = true
      · rw [if_pos hit]
        constructor
        · intro same
          cases same
          exact ⟨⟨[], line, rest, rfl, fun other member => absurd member List.not_mem_nil, hit⟩, rfl⟩
        · rintro ⟨⟨before, other, after, whole, skipped, _⟩, rfl⟩
          cases before with
          | nil =>
              cases whole
              rfl
          | cons first others =>
              obtain ⟨rfl, _⟩ := List.cons.inj whole
              rw [skipped line (List.mem_cons_self ..)] at hit
              cases hit
      · rw [if_neg hit]
        constructor
        · intro later
          obtain ⟨tail, edits, rfl⟩ := Option.map_eq_some_iff.mp later
          obtain ⟨⟨before, other, after, rfl, skipped, meantOther⟩, rfl⟩ := (ih tail).mp edits
          have all : ∀ one ∈ line :: before, meant one = false := by
            rw [List.forall_mem_cons]
            exact ⟨Bool.not_eq_true _ ▸ hit, skipped⟩
          exact ⟨⟨line :: before, other, after, rfl, all, meantOther⟩, rfl⟩
        · rintro ⟨⟨before, other, after, whole, skipped, meantOther⟩, rfl⟩
          cases before with
          | nil =>
              cases whole
              exact absurd meantOther hit
          | cons first others =>
              obtain ⟨rfl, rfl⟩ := List.cons.inj whole
              have tail := (ih (others ++ new :: after)).mpr
                ⟨⟨others, other, after, rfl, fun one member => skipped one (List.mem_cons_of_mem _ member), meantOther⟩, rfl⟩
              rw [tail]
              rfl

theorem replace_line_set (meant : α → Bool) (new : α) (lines : List α) :
    replaceLine meant new lines = (lines.findIdx? meant).map (fun index => lines.set index new) := by
  induction lines with
  | nil => rfl
  | cons line rest ih =>
      rw [replaceLine, List.findIdx?_cons, ih]
      by_cases hit : meant line = true
      · rw [if_pos hit, if_pos hit]
        rfl
      · rw [if_neg hit, if_neg hit, Option.map_map, Option.map_map]
        rfl

theorem replace_line_find (meant other : α → Bool) (new : α) (apart : ∀ line, meant line = true → other line = false)
    (newOther : other new = false) (lines edited : List α) (edits : replaceLine meant new lines = some edited) :
    edited.findIdx? other = lines.findIdx? other := by
  induction lines generalizing edited with
  | nil => cases edits
  | cons line rest ih =>
      rw [replaceLine] at edits
      by_cases hit : meant line = true
      · rw [if_pos hit] at edits
        cases edits
        rw [List.findIdx?_cons, List.findIdx?_cons, newOther, apart line hit]
      · rw [if_neg hit] at edits
        obtain ⟨tail, later, rfl⟩ := Option.map_eq_some_iff.mp edits
        rw [List.findIdx?_cons, List.findIdx?_cons, ih tail later]

theorem replace_line_mem (meant : α → Bool) (new : α) (lines edited : List α) (edits : replaceLine meant new lines = some edited)
    (line : α) (member : line ∈ edited) : line = new ∨ line ∈ lines := by
  obtain ⟨⟨before, other, after, rfl, _, _⟩, rfl⟩ := (replace_line_some meant new lines edited).mp edits
  cases List.mem_append.mp member with
  | inl earlier => exact .inr (List.mem_append_left _ earlier)
  | inr later =>
      cases List.mem_cons.mp later with
      | inl same => exact .inl same
      | inr after => exact .inr (List.mem_append_right _ (List.mem_cons_of_mem _ after))

theorem replace_line_again (meant : α → Bool) (old new : α) (own : meant old = true) (lines : List α) :
    (replaceLine meant old lines).bind (replaceLine meant new) = replaceLine meant new lines := by
  induction lines with
  | nil => rfl
  | cons line rest ih =>
      rw [replaceLine, replaceLine]
      by_cases hit : meant line = true
      · rw [if_pos hit, if_pos hit, Option.bind_some, replaceLine, if_pos own]
      · rw [if_neg hit, if_neg hit, ← ih]
        cases replaceLine meant old rest with
        | none => rfl
        | some later => rw [Option.map_some, Option.bind_some, Option.bind_some, replaceLine, if_neg hit]

theorem replace_line_swap (first second : α → Bool) (one other : α) (apart : ∀ line, first line = true → second line = false)
    (oneOther : second one = false) (otherOne : first other = false) (lines : List α) :
    (replaceLine first one lines).bind (replaceLine second other) =
      (replaceLine second other lines).bind (replaceLine first one) := by
  induction lines with
  | nil => rfl
  | cons line rest ih =>
      rw [replaceLine, replaceLine]
      by_cases inFirst : first line = true
      · have notSecond : ¬ second line = true := by rw [apart line inFirst]; exact Bool.false_ne_true
        have notOne : ¬ second one = true := by rw [oneOther]; exact Bool.false_ne_true
        rw [if_pos inFirst, if_neg notSecond, Option.bind_some, replaceLine, if_neg notOne]
        cases replaceLine second other rest with
        | none => rfl
        | some later => rw [Option.map_some, Option.map_some, Option.bind_some, replaceLine, if_pos inFirst]
      · have notOther : ¬ first other = true := by rw [otherOne]; exact Bool.false_ne_true
        rw [if_neg inFirst]
        by_cases inSecond : second line = true
        · rw [if_pos inSecond, Option.bind_some, replaceLine, if_neg notOther]
          cases replaceLine first one rest with
          | none => rfl
          | some later => rw [Option.map_some, Option.map_some, Option.bind_some, replaceLine, if_pos inSecond]
        · have tails := congrArg (Option.map (fun later => line :: later)) ih
          rw [if_neg inSecond]
          cases left : replaceLine first one rest with
          | none =>
              cases right : replaceLine second other rest with
              | none => rfl
              | some later =>
                  rw [left, right] at tails
                  simpa [replaceLine, inFirst] using tails
          | some earlier =>
              cases right : replaceLine second other rest with
              | none =>
                  rw [left, right] at tails
                  simpa [replaceLine, inSecond] using tails
              | some later =>
                  rw [left, right] at tails
                  simpa [replaceLine, inFirst, inSecond] using tails

end Chassis.Lines
