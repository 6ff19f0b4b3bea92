import Chassis.Text
import Mathlib.Data.List.Sort
import Mathlib.Tactic.Ring
import Mathlib.Tactic.Positivity

set_option autoImplicit false

namespace Chassis.Helm

open Text

-- A float64 by the shortest decimal that stands for it and no other, which is
-- what Go prints: the digits end in no zero.
structure GoFloat where
  mantissa : Int
  exponent : Int
  settled : mantissa % 10 ≠ 0 ∨ (mantissa = 0 ∧ exponent = 0)

inductive Value where
  | null
  | bool (value : Bool)
  | int (value : Int64)
  | float (value : GoFloat)
  | text (contents : Str)
  | list (items : List Value)
  | map (members : List (Str × Value))

-- The verbs of fmt that a template prints with.
inductive Verb where
  | v
  | s

def zeros (count : Nat) : Str := List.replicate count '0'

-- d.dddde±dd
def scientific (digits : Str) (exponent : Int) : Str :=
  digits.take 1 ++ (if digits.length = 1 then [] else '.' :: digits.drop 1) ++
    'e' :: (if exponent < 0 then '-' else '+') ::
      (if exponent.natAbs < 10 then '0' :: natText exponent.natAbs else natText exponent.natAbs)

namespace GoFloat

def digits (x : GoFloat) : Str := natText x.mantissa.natAbs

def point (x : GoFloat) : Int := x.digits.length + x.exponent

def unsigned (x : GoFloat) : Str :=
  if x.point - 1 < -4 ∨ 6 ≤ x.point - 1 then scientific x.digits (x.point - 1)
  else if 0 ≤ x.exponent then x.digits ++ zeros x.exponent.toNat
  else if 0 < x.point then x.digits.take x.point.toNat ++ '.' :: x.digits.drop x.point.toNat
  else "0.".toList ++ zeros (-x.point).toNat ++ x.digits

-- fmt.Sprintf("%v", x)
def goText (x : GoFloat) : Str := if x.mantissa < 0 then '-' :: x.unsigned else x.unsigned

def whole (x : GoFloat) : Option Int :=
  if 0 ≤ x.exponent then some (x.mantissa * 10 ^ x.exponent.toNat) else none

-- int64(x); out of range, what amd64 answers.
def truncate (x : GoFloat) : Int64 :=
  let n := if 0 ≤ x.exponent then x.mantissa * 10 ^ x.exponent.toNat else x.mantissa.tdiv (10 ^ (-x.exponent).toNat)
  if -2 ^ 63 ≤ n ∧ n < 2 ^ 63 then Int64.ofInt n else Int64.minValue

end GoFloat

namespace Value

-- %s marks what is no string.
def wrongVerb (verb : Verb) (kind : String) (text : Str) : Str :=
  match verb with
  | .v => text
  | .s => "%!s(".toList ++ kind.toList ++ '=' :: text ++ [')']

mutual

def format (verb : Verb) : Value → Str
  | .null =>
      match verb with
      | .v => "<nil>".toList
      | .s => "%!s(<nil>)".toList
  | .bool value => wrongVerb verb "bool" (if value then "true".toList else "false".toList)
  | .int value => wrongVerb verb "int64" (intText value.toInt)
  | .float value => wrongVerb verb "float64" value.goText
  | .text contents => contents
  | .list items => '[' :: join [' '] (formatItems verb items) ++ [']']
  | .map members =>
      let sorted := (formatMembers verb members).mergeSort (fun left right => left.1 ≤ right.1)
      "map[".toList ++ join [' '] (sorted.map (fun member => member.1 ++ ':' :: member.2)) ++ [']']

def formatItems (verb : Verb) : List Value → List Str
  | [] => []
  | item :: rest => format verb item :: formatItems verb rest

def formatMembers (verb : Verb) : List (Str × Value) → List (Str × Str)
  | [] => []
  | (name, value) :: rest => (name, format verb value) :: formatMembers verb rest

end

theorem format_items_cons (verb : Verb) (item : Value) (rest : List Value) :
    formatItems verb (item :: rest) = format verb item :: formatItems verb rest := rfl

def goText (value : Value) : Str := value.format .v

def isNull : Value → Bool
  | .null => true
  | _ => false

-- Sprig's empty, and what `if` takes for false.
def isEmpty : Value → Bool
  | .null => true
  | .bool value => !value
  | .int value => value = 0
  | .float value => value.mantissa = 0
  | .text contents => contents.isEmpty
  | .list items => items.isEmpty
  | .map members => members.isEmpty

theorem nonempty_set (value : Value) (nonempty : value.isEmpty = false) : value.isNull = false := by
  cases value with
  | null => cases nonempty
  | _ => rfl

end Value

theorem nat_text_zeros (n count : Nat) (positive : 0 < n) : natText (n * 10 ^ count) = natText n ++ zeros count := by
  induction count with
  | zero => simp [zeros]
  | succ count ih =>
      have some : 0 < n * 10 ^ count := Nat.mul_pos positive (by positivity)
      calc
        natText (n * 10 ^ (count + 1)) = Nat.toDigits 10 (10 * (n * 10 ^ count) + 0) := by
          rw [natText, Nat.pow_succ, Nat.add_zero]
          ring_nf
        _ = natText (n * 10 ^ count) ++ ['0'] := (Nat.toDigits_append_toDigits (by decide) some (by decide)).symm
        _ = natText n ++ zeros (count + 1) := by rw [ih, zeros, zeros, List.replicate_succ', List.append_assoc]

theorem nat_text_length (n bound : Nat) (positive : 0 < bound) : (natText n).length ≤ bound ↔ n < 10 ^ bound :=
  Nat.length_toDigits_le_iff (by decide) positive

theorem int_text_negative (n : Int) (negative : n < 0) : intText n = '-' :: natText n.natAbs := by
  cases n with
  | ofNat n => exact absurd negative (by simp)
  | negSucc n => rfl

theorem int_text_natural (n : Int) (natural : 0 ≤ n) : intText n = natText n.natAbs := by
  cases n with
  | ofNat n => rfl
  | negSucc n => exact absurd natural (by simp)

theorem int_text_nonempty (n : Int) : intText n ≠ [] := by
  cases n with
  | ofNat n => exact Nat.toDigits_ne_nil
  | negSucc n => exact List.cons_ne_nil _ _

theorem scientific_exponent (digits : Str) (exponent : Int) : 'e' ∈ scientific digits exponent := by
  simp [scientific]

namespace GoFloat

theorem go_text_nonempty (x : GoFloat) : x.goText ≠ [] := by
  have digits : x.digits ≠ [] := Nat.toDigits_ne_nil
  have unsigned : x.unsigned ≠ [] := by
    unfold GoFloat.unsigned
    split
    · exact List.ne_nil_of_mem (scientific_exponent _ _)
    · split
      · exact List.append_ne_nil_of_left_ne_nil digits _
      · split
        · simp
        · exact List.append_ne_nil_of_right_ne_nil _ digits
  unfold GoFloat.goText
  split
  · exact List.cons_ne_nil _ _
  · exact unsigned

theorem whole_some (x : GoFloat) (n : Int) (whole : x.whole = some n) :
    0 ≤ x.exponent ∧ n = x.mantissa * 10 ^ x.exponent.toNat := by
  unfold GoFloat.whole at whole
  by_cases integral : 0 ≤ x.exponent
  · rw [if_pos integral] at whole
    exact ⟨integral, (Option.some.inj whole).symm⟩
  · rw [if_neg integral] at whole
    cases whole

theorem whole_digits (x : GoFloat) (n : Int) (whole : x.whole = some n) :
    x.digits ++ zeros x.exponent.toNat = natText n.natAbs ∧ (natText n.natAbs).length = x.point := by
  obtain ⟨integral, rfl⟩ := whole_some x n whole
  have exponent : (x.exponent.toNat : Int) = x.exponent := Int.toNat_of_nonneg integral
  have size : (x.mantissa * 10 ^ x.exponent.toNat).natAbs = x.mantissa.natAbs * 10 ^ x.exponent.toNat := by
    rw [Int.natAbs_mul, Int.natAbs_pow]
    rfl
  have written : x.digits ++ zeros x.exponent.toNat = natText (x.mantissa.natAbs * 10 ^ x.exponent.toNat) := by
    cases x.settled with
    | inl nonzero => exact (nat_text_zeros _ _ (Int.natAbs_pos.mpr (fun zero => nonzero (by simp [zero])))).symm
    | inr zero => simp [digits, zero.1, zero.2, zeros]
  rw [size]
  refine ⟨written, ?_⟩
  rw [← written, List.length_append, zeros, List.length_replicate, point]
  omega

theorem whole_text (x : GoFloat) (n : Int) (whole : x.whole = some n) (small : n.natAbs < 10 ^ 6) :
    x.goText = intText n := by
  obtain ⟨written, length⟩ := whole_digits x n whole
  obtain ⟨integral, value⟩ := whole_some x n whole
  have short := (nat_text_length n.natAbs 6 (by decide)).mpr small
  have long : 0 < (natText n.natAbs).length := List.length_pos_of_ne_nil (by simp [natText])
  have plain : x.unsigned = natText n.natAbs := by
    rw [GoFloat.unsigned, if_neg (by omega), if_pos integral, written]
  have sign : x.mantissa < 0 ↔ n < 0 := by
    rw [value]
    constructor
    · intro negative
      exact Int.mul_neg_of_neg_of_pos negative (by positivity)
    · intro negative
      by_contra natural
      exact absurd (Int.mul_nonneg (not_lt.mp natural) (by positivity)) (not_le.mpr negative)
  by_cases negative : n < 0
  · rw [GoFloat.goText, if_pos (sign.mpr negative), plain, int_text_negative n negative]
  · rw [GoFloat.goText, if_neg (fun below => negative (sign.mp below)), plain, int_text_natural n (not_lt.mp negative)]

theorem whole_exponent (x : GoFloat) (n : Int) (whole : x.whole = some n) (large : 10 ^ 6 ≤ n.natAbs) :
    'e' ∈ x.goText := by
  obtain ⟨_, length⟩ := whole_digits x n whole
  have long : ¬ (natText n.natAbs).length ≤ 6 := fun short =>
    absurd ((nat_text_length n.natAbs 6 (by decide)).mp short) (not_lt.mpr large)
  have written : 'e' ∈ x.unsigned := by
    rw [GoFloat.unsigned, if_pos (by omega)]
    exact scientific_exponent _ _
  unfold GoFloat.goText
  split
  · exact List.mem_cons_of_mem _ written
  · exact written

example : goText ⟨268435456, 0, by decide⟩ = "2.68435456e+08".toList := by decide

theorem whole_truncate (x : GoFloat) (n : Int) (whole : x.whole = some n) (lower : -2 ^ 63 ≤ n) (upper : n < 2 ^ 63) :
    x.truncate.toInt = n := by
  obtain ⟨integral, rfl⟩ := whole_some x n whole
  rw [truncate, if_pos integral, if_pos ⟨lower, upper⟩]
  exact Int64.toInt_ofInt_of_le lower upper

theorem whole_zero (x : GoFloat) (n : Int) (whole : x.whole = some n) : x.mantissa = 0 ↔ n = 0 := by
  obtain ⟨_, rfl⟩ := whole_some x n whole
  simp

end GoFloat

end Chassis.Helm
