import Chassis.JsonText
import Mathlib.Algebra.Order.Ring.Nat
import Mathlib.Tactic.Ring

set_option autoImplicit false

namespace Chassis.JsonText

open Text

section Limits

variable (interpreter : Interpreter)

def Within : Nat → Json → Prop
  | _, .int n => (natText n.natAbs).length ≤ interpreter.intMaxStrDigits
  | depth + 1, .array items => ∀ item ∈ items, Within depth item
  | depth + 1, .object members => ∀ member ∈ members, Within depth member.2
  | 0, .array _ => False
  | 0, .object _ => False
  | _, _ => True

theorem within_leaf (depth other : Nat) (value : Json) (noArray : ∀ items, value ≠ .array items)
    (noObject : ∀ members, value ≠ .object members) (within : Within interpreter depth value) :
    Within interpreter other value := by
  cases value with
  | null => cases other <;> trivial
  | bool value => cases other <;> trivial
  | int n => cases depth <;> cases other <;> exact within
  | float value => cases other <;> trivial
  | str text => cases other <;> trivial
  | array items => exact absurd rfl (noArray items)
  | object members => exact absurd rfl (noObject members)

theorem within_succ (depth : Nat) (value : Json) (within : Within interpreter depth value) :
    Within interpreter (depth + 1) value := by
  induction depth generalizing value with
  | zero =>
      cases value with
      | array items => cases within
      | object members => cases within
      | _ => exact within_leaf interpreter 0 1 _ (by simp) (by simp) within
  | succ depth ih =>
      cases value with
      | array items => exact fun item member => ih item (within item member)
      | object members => exact fun member listed => ih member.2 (within member listed)
      | _ => exact within_leaf interpreter (depth + 1) (depth + 2) _ (by simp) (by simp) within

theorem of_digit_chars_lt (text : Str) (acc : Nat) (digits : ∀ c ∈ text, c.isDigit = true) :
    Nat.ofDigitChars 10 text acc < (acc + 1) * 10 ^ text.length := by
  induction text generalizing acc with
  | nil => simp
  | cons c rest ih =>
      have digit : c.toNat - '0'.toNat < 10 := by
        have bounds := digits c (by simp)
        simp only [Char.isDigit, Bool.and_eq_true, decide_eq_true_eq] at bounds
        have upper : c.toNat ≤ 57 := bounds.2
        have zero : '0'.toNat = 48 := rfl
        omega
      have later := ih (10 * acc + (c.toNat - '0'.toNat)) (fun c member => digits c (by simp [member]))
      calc
        Nat.ofDigitChars 10 (c :: rest) acc = Nat.ofDigitChars 10 rest (10 * acc + (c.toNat - '0'.toNat)) :=
          Nat.ofDigitChars_cons
        _ < (10 * acc + (c.toNat - '0'.toNat) + 1) * 10 ^ rest.length := later
        _ ≤ ((acc + 1) * 10) * 10 ^ rest.length := Nat.mul_le_mul_right _ (by omega)
        _ = (acc + 1) * 10 ^ (c :: rest).length := by rw [List.length_cons, Nat.pow_succ']; ring

theorem scan_integer_digits (text integer rest : Str) (scanned : scanInteger text = .ok (integer, rest)) :
    integer ≠ [] ∧ ∀ c ∈ integer, c.isDigit = true := by
  obtain ⟨_, zero⟩ | ⟨c, tail, _, digit, taken, _⟩ := scan_integer_ok text integer rest scanned
  · simp [zero]
  · rw [taken]
    refine ⟨by simp, ?_⟩
    intro other member
    rcases List.mem_cons.mp member with rfl | later
    · exact digit
    · exact List.mem_takeWhile_imp later

theorem number_within (depth : Nat) (negative : Bool) (integer fraction exponent : Str) (value : Json)
    (nonempty : integer ≠ []) (digits : ∀ c ∈ integer, c.isDigit = true)
    (read : numberValue interpreter negative integer fraction exponent = .ok value) : Within interpreter depth value := by
  unfold numberValue at read
  by_cases whole : fraction = [] ∧ exponent = []
  · rw [if_pos whole] at read
    by_cases long : interpreter.intMaxStrDigits < integer.length
    · rw [if_pos long] at read
      cases read
    · rw [if_neg long] at read
      cases read
      have size : (signed negative (Nat.ofDigitChars 10 integer 0)).natAbs = Nat.ofDigitChars 10 integer 0 := by
        cases negative <;> simp [signed]
      have bound := of_digit_chars_lt integer 0 digits
      have short := (Nat.length_toDigits_le_iff (b := 10) (by decide) (List.length_pos_iff.mpr nonempty)).mpr
        (by simpa using bound)
      have within : (natText (Nat.ofDigitChars 10 integer 0)).length ≤ interpreter.intMaxStrDigits :=
        short.trans (Nat.le_of_not_lt long)
      cases depth <;> simpa [Within, size] using within
  · rw [if_neg whole] at read
    cases read
    cases depth <;> trivial

theorem leaf_within (depth : Nat) (text : Str) (value : Json) (rest : Str)
    (scanned : scanLeaf interpreter text = .ok (value, rest)) : Within interpreter depth value := by
  unfold scanLeaf at scanned
  cases found : (literals interpreter).find? (fun literal => literal.1.isPrefixOf text) with
  | none =>
      rw [found] at scanned
      obtain ⟨integer, after, read, _, number⟩ := scan_number_ok interpreter text value rest scanned
      have digits := scan_integer_digits _ integer after read
      exact number_within interpreter depth _ integer _ _ value digits.1 digits.2 number
  | some literal =>
      rw [found] at scanned
      cases scanned
      have simple : ∀ literal ∈ literals interpreter, Within interpreter depth literal.2 := by
        cases depth <;> simp [literals, Within]
      exact simple literal (List.mem_of_find?_eq_some found)

theorem scan_items_all {α : Type} (item : Scanner α) (close : Char) (holds : α → Prop)
    (each : ∀ text value rest, item.run text = .ok (value, rest) → holds value) (text : Str) (values : List α) (rest : Str)
    (scanned : scanItems item close text = .ok (values, rest)) : ∀ value ∈ values, holds value := by
  induction size : text.length using Nat.strong_induction_on generalizing text values with
  | _ size ih =>
      obtain ⟨value, after, found, closed | ⟨more, later, comma, continued, same⟩⟩ :=
        scan_items_ok item close text values rest scanned
      · rw [closed.2]
        simpa using each text value after found
      · have shorter := item.shortens text value after found
        have skipped := skip_length after
        have again := skip_length more
        rw [comma, List.length_cons] at skipped
        have rests := ih (skip more).length (by omega) (skip more) later continued rfl
        rw [same]
        simpa using ⟨each text value after found, rests⟩

theorem scan_body_all {α : Type} (item : Scanner α) (close : Char) (holds : α → Prop)
    (each : ∀ text value rest, item.run text = .ok (value, rest) → holds value) (text : Str) (values : List α) (rest : Str)
    (scanned : scanBody item close text = .ok (values, rest)) : ∀ value ∈ values, holds value := by
  unfold scanBody at scanned
  by_cases closes : (skip text).head? = some close
  · rw [if_pos closes] at scanned
    cases scanned
    simp
  · rw [if_neg closes] at scanned
    exact scan_items_all item close holds each (skip text) values rest scanned

theorem assign_values (holds : Json → Prop) (name : Str) (value : Json) (members : List (Str × Json))
    (new : holds value) (all : ∀ member ∈ members, holds member.2) :
    ∀ member ∈ assign name value members, holds member.2 := by
  induction members with
  | nil => simpa [assign] using new
  | cons member rest ih =>
      obtain ⟨other, old⟩ := member
      have first : holds old := all (other, old) (by simp)
      have rests := ih (fun member listed => all member (by simp [listed]))
      by_cases same : other = name
      · rw [assign, if_pos same]
        simpa [new] using fun a b listed => all (a, b) (by simp [listed])
      · rw [assign, if_neg same]
        simpa [first] using fun a b listed => rests (a, b) listed

theorem dict_of_values (holds : Json → Prop) (pairs members : List (Str × Json))
    (all : ∀ member ∈ members, holds member.2) (new : ∀ pair ∈ pairs, holds pair.2) :
    ∀ member ∈ pairs.foldl (fun members pair => assign pair.1 pair.2 members) members, holds member.2 := by
  induction pairs generalizing members with
  | nil => exact all
  | cons pair rest ih =>
      exact ih (assign pair.1 pair.2 members) (assign_values holds pair.1 pair.2 members (new pair (by simp)) all)
        (fun pair listed => new pair (by simp [listed]))

theorem nested_within (depth : Nat) (nested : Option (Scanner Json))
    (inner : ∀ value, nested = some value → ∃ less, depth = less + 1 ∧
      ∀ text item rest, value.run text = .ok (item, rest) → Within interpreter less item)
    (text : Str) (value : Json) (rest : Str) (scanned : scanNested interpreter nested text = .ok (value, rest)) :
    Within interpreter depth value := by
  unfold scanNested at scanned
  split at scanned
  next =>
    obtain ⟨found, done, same⟩ := map_ok _ _ _ scanned
    cases same
    cases depth <;> trivial
  next after =>
    split at scanned
    next => cases scanned
    next scanner =>
      obtain ⟨less, same, each⟩ := inner scanner rfl
      obtain ⟨found, done, result⟩ := map_ok _ _ _ scanned
      cases result
      subst same
      exact scan_body_all scanner ']' (Within interpreter less) each after found.1 found.2 done
  next after =>
    split at scanned
    next => cases scanned
    next scanner =>
      obtain ⟨less, same, each⟩ := inner scanner rfl
      obtain ⟨found, done, result⟩ := map_ok _ _ _ scanned
      cases result
      subst same
      have members := scan_body_all (memberScanner interpreter scanner) '}' (fun pair => Within interpreter less pair.2) ?_
        after found.1 found.2 done
      · exact dict_of_values (Within interpreter less) found.1 [] (by simp) members
      · intro text pair rest read
        obtain ⟨_, more, _, _, done⟩ := scan_member_ok interpreter scanner text pair rest read
        exact each (skip more) pair.2 rest done
  next => exact leaf_within interpreter depth text value rest scanned

theorem scan_value_within (depth : Nat) (text : Str) (value : Json) (rest : Str)
    (scanned : (scanValue interpreter depth).run text = .ok (value, rest)) : Within interpreter depth value := by
  induction depth generalizing text value rest with
  | zero => exact nested_within interpreter 0 none (fun value found => by cases found) text value rest scanned
  | succ depth ih =>
      refine nested_within interpreter (depth + 1) (some (scanValue interpreter depth)) ?_ text value rest scanned
      intro scanner same
      cases same
      exact ⟨depth, rfl, ih⟩

theorem loads_within (text : Str) (value : Json) (read : loads interpreter text = .ok value) :
    Within interpreter (interpreter.nesting + 1) value := by
  unfold loads at read
  split at read
  next => cases read
  next =>
    split at read
    next => cases read
    next found rest scanned =>
      by_cases done : skip rest = []
      · rw [if_pos done] at read
        cases read
        exact scan_value_within interpreter _ _ _ rest scanned
      · rw [if_neg done] at read
        cases read

-- repr of a string.
def hexGroups (count n : Nat) : Str := (Digits.toGroups 16 count n).map Nat.digitChar

def reprChar (quote c : Char) : Str :=
  if c = quote ∨ c = '\\' then ['\\', c]
  else if c = '\t' then "\\t".toList
  else if c = '\n' then "\\n".toList
  else if c = '\r' then "\\r".toList
  else if (32 ≤ c.toNat ∧ c.toNat < 127) ∨ (127 < c.toNat ∧ interpreter.isPrintable c = true) then [c]
  else if c.toNat < 0x100 then "\\x".toList ++ hexGroups 2 c.toNat
  else if c.toNat < 0x10000 then "\\u".toList ++ hexGroups 4 c.toNat
  else "\\U".toList ++ hexGroups 8 c.toNat

def reprStr (text : Str) : Str :=
  let quote := if '\'' ∈ text ∧ '"' ∉ text then '"' else '\''
  quote :: text.flatMap (reprChar interpreter quote) ++ [quote]

def repr : Nat → Json → Except PyException Str
  | _, .null => .ok "None".toList
  | _, .bool value => .ok (if value then "True" else "False").toList
  | _, .int n => if interpreter.intMaxStrDigits < (natText n.natAbs).length then .error .valueError else .ok (intText n)
  | _, .float value => .ok (interpreter.floatRepr value)
  | _, .str text => .ok (reprStr interpreter text)
  | depth + 1, .array items =>
      (items.mapM (repr depth)).map (fun texts => '[' :: join ", ".toList texts ++ [']'])
  | depth + 1, .object members =>
      (members.mapM (fun member =>
          (repr depth member.2).map (fun text => reprStr interpreter member.1 ++ ": ".toList ++ text))).map
        (fun texts => '{' :: join ", ".toList texts ++ ['}'])
  | 0, .array _ => .error .recursionError
  | 0, .object _ => .error .recursionError

-- str() of a decoded value.
def str (value : Json) : Except PyException Str :=
  match value with
  | .str text => .ok text
  | other => repr interpreter (interpreter.nesting + 1) other

theorem map_m_ok {ε α β : Type} (f : α → Except ε β) (values : List α) (each : ∀ value ∈ values, ∃ result, f value = .ok result) :
    ∃ results, values.mapM f = .ok results := by
  induction values with
  | nil => exact ⟨[], rfl⟩
  | cons value rest ih =>
      obtain ⟨result, first⟩ := each value (by simp)
      obtain ⟨results, rests⟩ := ih (fun value member => each value (by simp [member]))
      refine ⟨result :: results, ?_⟩
      rw [List.mapM_cons, first, rests]
      rfl

theorem repr_leaf (depth : Nat) (value : Json) (noArray : ∀ items, value ≠ .array items)
    (noObject : ∀ members, value ≠ .object members) (within : Within interpreter depth value) :
    ∃ text, repr interpreter depth value = .ok text := by
  cases value with
  | null => cases depth <;> exact ⟨_, rfl⟩
  | bool value => cases depth <;> exact ⟨_, rfl⟩
  | int n => cases depth <;> exact ⟨_, if_neg (Nat.not_lt.mpr within)⟩
  | float value => cases depth <;> exact ⟨_, rfl⟩
  | str text => cases depth <;> exact ⟨_, rfl⟩
  | array items => exact absurd rfl (noArray items)
  | object members => exact absurd rfl (noObject members)

theorem repr_within (depth : Nat) (value : Json) (within : Within interpreter depth value) :
    ∃ text, repr interpreter depth value = .ok text := by
  induction depth generalizing value with
  | zero =>
      cases value with
      | array items => cases within
      | object members => cases within
      | _ => exact repr_leaf interpreter 0 _ (by simp) (by simp) within
  | succ depth ih =>
      cases value with
      | array items =>
          obtain ⟨texts, done⟩ := map_m_ok (repr interpreter depth) items (fun item member => ih item (within item member))
          exact ⟨_, by rw [repr, done]; rfl⟩
      | object members =>
          obtain ⟨texts, done⟩ := map_m_ok (fun member : Str × Json =>
            (repr interpreter depth member.2).map (fun text => reprStr interpreter member.1 ++ ": ".toList ++ text)) members
            (fun member listed => by
              obtain ⟨text, shown⟩ := ih member.2 (within member listed)
              exact ⟨_, by rw [shown]; rfl⟩)
          exact ⟨_, by rw [repr, done]; rfl⟩
      | _ => exact repr_leaf interpreter (depth + 1) _ (by simp) (by simp) within

theorem str_within (value : Json) (within : Within interpreter (interpreter.nesting + 1) value) :
    ∃ text, str interpreter value = .ok text := by
  unfold str
  split
  next text => exact ⟨text, rfl⟩
  next => exact repr_within interpreter _ value within

theorem items_str (items : List Json) (within : Within interpreter (interpreter.nesting + 1) (.array items)) :
    ∃ texts, items.mapM (str interpreter) = .ok texts :=
  map_m_ok (str interpreter) items
    (fun item member => str_within interpreter item (within_succ interpreter _ item (within item member)))

end Limits

end Chassis.JsonText
