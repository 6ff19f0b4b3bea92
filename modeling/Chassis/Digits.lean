import Chassis.Text

set_option autoImplicit false

namespace Chassis.Digits

-- A number as exactly `count` digits of a base, most significant first: the
-- bytes of int.to_bytes(count, 'big'), the groups of a zero-padded hex string.
def toGroups (base : Nat) : Nat → Nat → List Nat
  | 0, _ => []
  | count + 1, n => toGroups base count (n / base) ++ [n % base]

-- One pass of acc = acc * base + group, as int.from_bytes or a shift-or loop.
def ofGroups (base acc : Nat) (groups : List Nat) : Nat :=
  groups.foldl (fun total group => total * base + group) acc

theorem of_groups_append (base acc : Nat) (left right : List Nat) :
    ofGroups base acc (left ++ right) = ofGroups base (ofGroups base acc left) right :=
  List.foldl_append

theorem of_groups_zeros (base acc count : Nat) :
    ofGroups base acc (List.replicate count 0) = acc * base ^ count := by
  induction count generalizing acc with
  | zero => simp [ofGroups]
  | succ count ih =>
      calc
        ofGroups base acc (List.replicate (count + 1) 0) = ofGroups base (acc * base) (List.replicate count 0) := rfl
        _ = acc * base * base ^ count := ih (acc * base)
        _ = acc * base ^ (count + 1) := by ring

theorem to_groups_length (base count n : Nat) : (toGroups base count n).length = count := by
  induction count generalizing n with
  | zero => rfl
  | succ count ih => simp [toGroups, ih]

theorem to_groups_lt (base count n : Nat) (positive : 0 < base) : ∀ group ∈ toGroups base count n, group < base := by
  induction count generalizing n with
  | zero => simp [toGroups]
  | succ count ih =>
      intro group member
      rcases List.mem_append.mp member with earlier | last
      · exact ih (n / base) group earlier
      · rw [List.mem_singleton.mp last]
        exact Nat.mod_lt n positive

theorem of_groups_to_groups (base count n : Nat) (bound : n < base ^ count) :
    ofGroups base 0 (toGroups base count n) = n := by
  induction count generalizing n with
  | zero => simpa [toGroups, ofGroups, eq_comm] using bound
  | succ count ih =>
      have quotient : n / base < base ^ count := Nat.div_lt_of_lt_mul (by rwa [← Nat.pow_succ'])
      calc
        ofGroups base 0 (toGroups base (count + 1) n)
            = ofGroups base 0 (toGroups base count (n / base)) * base + n % base := by
          rw [toGroups, of_groups_append]
          rfl
        _ = n := by rw [ih (n / base) quotient, Nat.div_add_mod']

def hexValue (c : Char) : Option Nat :=
  if '0' ≤ c ∧ c ≤ '9' then some (c.toNat - '0'.toNat)
  else if 'a' ≤ c ∧ c ≤ 'f' then some (c.toNat - 'a'.toNat + 10)
  else if 'A' ≤ c ∧ c ≤ 'F' then some (c.toNat - 'A'.toNat + 10)
  else none

def hexText (n : Nat) : Str := Nat.toDigits 16 n

def hexFold (acc : Nat) : Str → Option Nat
  | [] => some acc
  | c :: tail => (hexValue c).bind (fun digit => hexFold (acc * 16 + digit) tail)

-- int(text, 16) on text without sign, prefix or underscore.
def hexNumber (text : Str) : Option Nat := if text = [] then none else hexFold 0 text

theorem hex_fold_append (acc : Nat) (left right : Str) :
    hexFold acc (left ++ right) = (hexFold acc left).bind (fun total => hexFold total right) := by
  induction left generalizing acc with
  | nil => rfl
  | cons c tail ih => cases digit : hexValue c <;> simp [hexFold, digit, ih]

theorem hex_value_digit_char (digit : Nat) (bound : digit < 16) : hexValue digit.digitChar = some digit := by
  revert digit
  decide

theorem hex_fold_text (n : Nat) : hexFold 0 (hexText n) = some n := by
  induction n using Nat.strong_induction_on with
  | _ n ih =>
      unfold hexText at ih ⊢
      rw [Nat.toDigits_eq_if (by decide)]
      split
      next small => simp [hexFold, hex_value_digit_char n small]
      next large =>
          have smaller : n / 16 < n := by omega
          have digit := hex_value_digit_char (n % 16) (Nat.mod_lt n (by decide))
          simp [hex_fold_append, ih (n / 16) smaller, hexFold, digit, Nat.div_add_mod']

theorem hex_number_text (n : Nat) : hexNumber (hexText n) = some n := by
  rw [hexNumber, if_neg (by simp [hexText])]
  exact hex_fold_text n

theorem hex_text_length (n : Nat) (bound : n < 65536) : (hexText n).length ≤ 4 :=
  (Nat.length_toDigits_le_iff (by decide) (by decide)).mpr bound

theorem hex_text_digits (n : Nat) : ∀ c ∈ hexText n, (hexValue c).isSome := by
  have total : ∀ (text : Str) (acc : Nat), (hexFold acc text).isSome → ∀ c ∈ text, (hexValue c).isSome := by
    intro text
    induction text with
    | nil => simp
    | cons head tail ih =>
        intro acc done c member
        cases digit : hexValue head with
        | none => simp [hexFold, digit] at done
        | some value =>
            rcases List.mem_cons.mp member with rfl | later
            · simp [digit]
            · exact ih (acc * 16 + value) (by simpa [hexFold, digit] using done) c later
  exact total (hexText n) 0 (by simp [hex_fold_text])

end Chassis.Digits
