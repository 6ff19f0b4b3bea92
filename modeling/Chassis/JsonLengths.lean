import Chassis.JsonText
import Mathlib.Algebra.Order.Group.Nat
import Mathlib.Algebra.BigOperators.Group.List.Basic

set_option autoImplicit false

namespace Chassis.JsonText

variable (interpreter : Interpreter)

def quotedSize : Json → Nat
  | .str contents => contents.length + 2
  | _ => 0

theorem leaf_unquoted (text : Str) (value : Json) (rest : Str)
    (scanned : scanLeaf interpreter text = .ok (value, rest)) : quotedSize value = 0 := by
  unfold scanLeaf at scanned
  cases found : (literals interpreter).find? (fun literal => literal.1.isPrefixOf text) with
  | none =>
      rw [found] at scanned
      obtain ⟨integer, after, _, _, number⟩ := scan_number_ok interpreter text value rest scanned
      unfold numberValue at number
      split at number
      · split at number
        · cases number
        · cases number
          rfl
      · cases number
        rfl
  | some literal =>
      rw [found] at scanned
      cases scanned
      have unquoted : ∀ literal ∈ literals interpreter, quotedSize literal.2 = 0 := by simp [literals, quotedSize]
      exact unquoted literal (List.mem_of_find?_eq_some found)

theorem nested_size (nested : Option (Scanner Json)) (text : Str) (value : Json) (rest : Str)
    (scanned : (valueScanner interpreter nested).run text = .ok (value, rest)) :
    quotedSize value + rest.length ≤ text.length := by
  have shorter := (valueScanner interpreter nested).shortens text value rest scanned
  have unquoted (size : quotedSize value = 0) : quotedSize value + rest.length ≤ text.length := by omega
  change scanNested interpreter nested text = .ok (value, rest) at scanned
  unfold scanNested at scanned
  split at scanned
  next =>
    obtain ⟨found, done, same⟩ := map_ok _ _ _ scanned
    cases same
    exact scan_string_length interpreter _ found.1 found.2 done
  next after =>
    split at scanned
    next => cases scanned
    next scanner =>
      obtain ⟨found, _, same⟩ := map_ok _ _ _ scanned
      cases same
      exact unquoted rfl
  next after =>
    split at scanned
    next => cases scanned
    next scanner =>
      obtain ⟨found, _, same⟩ := map_ok _ _ _ scanned
      cases same
      exact unquoted rfl
  next => exact unquoted (leaf_unquoted interpreter text value rest scanned)

theorem scan_value_size (depth : Nat) (text : Str) (value : Json) (rest : Str)
    (scanned : (scanValue interpreter depth).run text = .ok (value, rest)) :
    quotedSize value + rest.length ≤ text.length := by
  cases depth with
  | zero => exact nested_size interpreter none text value rest scanned
  | succ depth => exact nested_size interpreter (some (scanValue interpreter depth)) text value rest scanned

theorem scan_items_size {α : Type} (item : Scanner α) (close : Char) (size : α → Nat)
    (each : ∀ text value rest, item.run text = .ok (value, rest) → size value + rest.length ≤ text.length) (text : Str)
    (values : List α) (rest : Str) (scanned : scanItems item close text = .ok (values, rest)) :
    (values.map (fun value => size value + 1)).sum + rest.length ≤ text.length := by
  induction long : text.length using Nat.strong_induction_on generalizing text values with
  | _ long ih =>
      obtain ⟨value, after, found, closed | ⟨more, later, comma, continued, same⟩⟩ :=
        scan_items_ok item close text values rest scanned
      · have first := each text value after found
        have skipped := skip_length after
        rw [closed.1, List.length_cons] at skipped
        rw [closed.2, List.map_singleton, List.sum_singleton]
        omega
      · have first := each text value after found
        have shorter := item.shortens text value after found
        have skipped := skip_length after
        have again := skip_length more
        rw [comma, List.length_cons] at skipped
        have rests := ih (skip more).length (by omega) (skip more) later continued rfl
        rw [same, List.map_cons, List.sum_cons]
        omega

theorem scan_body_size {α : Type} (item : Scanner α) (close : Char) (size : α → Nat)
    (each : ∀ text value rest, item.run text = .ok (value, rest) → size value + rest.length ≤ text.length) (text : Str)
    (values : List α) (rest : Str) (scanned : scanBody item close text = .ok (values, rest)) :
    (values.map (fun value => size value + 1)).sum + rest.length ≤ text.length := by
  have skipped := skip_length text
  unfold scanBody at scanned
  by_cases closes : (skip text).head? = some close
  · rw [if_pos closes] at scanned
    cases scanned
    simp only [List.map_nil, List.sum_nil, List.length_tail]
    omega
  · rw [if_neg closes] at scanned
    have inside := scan_items_size item close size each (skip text) values rest scanned
    omega

theorem scan_array (nested : Option (Scanner Json)) (text : Str) (items : List Json) (rest : Str)
    (scanned : scanNested interpreter nested text = .ok (.array items, rest)) :
    ∃ scanner body, nested = some scanner ∧ text = '[' :: body ∧ scanBody scanner ']' body = .ok (items, rest) := by
  unfold scanNested at scanned
  split at scanned
  next =>
    obtain ⟨found, _, same⟩ := map_ok _ _ _ scanned
    cases same
  next after =>
    split at scanned
    next => cases scanned
    next scanner =>
      obtain ⟨found, done, same⟩ := map_ok _ _ _ scanned
      cases same
      exact ⟨scanner, after, rfl, rfl, done⟩
  next after =>
    split at scanned
    next => cases scanned
    next scanner =>
      obtain ⟨found, _, same⟩ := map_ok _ _ _ scanned
      cases same
  next =>
    unfold scanLeaf at scanned
    cases found : (literals interpreter).find? (fun literal => literal.1.isPrefixOf text) with
    | none =>
        rw [found] at scanned
        obtain ⟨integer, after, _, _, number⟩ := scan_number_ok interpreter text _ rest scanned
        unfold numberValue at number
        split at number
        · split at number <;> cases number
        · cases number
    | some literal =>
        rw [found] at scanned
        have leaf : ∀ literal ∈ literals interpreter, literal.2 ≠ .array items := by simp [literals]
        exact absurd (Prod.mk.inj (Except.ok.inj scanned)).1 (leaf literal (List.mem_of_find?_eq_some found))

theorem loads_array_size (text : Str) (items : List Json) (read : loads interpreter text = .ok (.array items)) :
    (items.map (fun item => quotedSize item + 1)).sum + 1 ≤ text.length := by
  unfold loads at read
  split at read
  next => cases read
  next =>
    split at read
    next => cases read
    next found rest scanned =>
      by_cases done : skip rest = []
      · rw [if_pos done] at read
        cases read
        obtain ⟨scanner, body, same, bracket, inside⟩ :=
          scan_array interpreter (some (scanValue interpreter interpreter.nesting)) _ _ _ scanned
        cases same
        have size := scan_body_size _ _ quotedSize (scan_value_size interpreter interpreter.nesting) body items rest inside
        have skipped := skip_length text
        rw [bracket, List.length_cons] at skipped
        omega
      · rw [if_neg done] at read
        cases read

end Chassis.JsonText
