import Chassis.Digits
import Chassis.Json

set_option autoImplicit false

namespace Chassis.JsonText

-- What the json module and str() raise.
inductive PyException where
  | jsonDecodeError
  | valueError
  | recursionError
deriving DecidableEq, Repr

-- What depends on the running interpreter: its limits (the one of digits is set;
-- CPython's 0 turns it off), its floats, and what stands for a lone surrogate,
-- which is no Char.
structure Interpreter where
  intMaxStrDigits : Nat
  nesting : Nat
  float : Str → Rat
  floatRepr : Rat → Str
  surrogate : Nat → Char
  isPrintable : Char → Bool

-- Reads a prefix of the text. It never reads nothing, so the loops over items end.
structure Scanner (α : Type) where
  run : Str → Except PyException (α × Str)
  shortens : ∀ text value rest, run text = .ok (value, rest) → rest.length < text.length

def isBlank (c : Char) : Bool := c = ' ' || c = '\t' || c = '\n' || c = '\r'

def skip (text : Str) : Str := text.dropWhile isBlank

theorem skip_length (text : Str) : (skip text).length ≤ text.length :=
  (List.dropWhile_sublist isBlank).length_le

theorem map_ok {ε α β : Type} (f : α → β) (result : Except ε α) (value : β) (done : result.map f = .ok value) :
    ∃ found, result = .ok found ∧ f found = value := by
  cases result with
  | error raised => cases done
  | ok found => exact ⟨found, rfl, Except.ok.inj done⟩

-- The escapes other than \u.
def escaped (c : Char) : Option Nat :=
  if c = '"' ∨ c = '\\' ∨ c = '/' then some c.toNat
  else if c = 'b' then some 8
  else if c = 'f' then some 12
  else if c = 'n' then some 10
  else if c = 'r' then some 13
  else if c = 't' then some 9
  else none

-- After the opening quote; an escaped surrogate is a unit of its own.
def stringUnits : Str → Except PyException (List Nat × Str)
  | [] => .error .jsonDecodeError
  | c :: rest =>
      if c = '"' then .ok ([], rest)
      else if c = '\\' then
        match rest with
        | 'u' :: first :: second :: third :: fourth :: after =>
            match Digits.hexFold 0 [first, second, third, fourth] with
            | none => .error .jsonDecodeError
            | some unit => (stringUnits after).map (fun found => (unit :: found.1, found.2))
        | e :: after =>
            match escaped e with
            | none => .error .jsonDecodeError
            | some unit => (stringUnits after).map (fun found => (unit :: found.1, found.2))
        | [] => .error .jsonDecodeError
      else if c.toNat < 32 then .error .jsonDecodeError
      else (stringUnits rest).map (fun found => (c.toNat :: found.1, found.2))

def isHigh (unit : Nat) : Bool := 0xD800 ≤ unit ∧ unit ≤ 0xDBFF

def isLow (unit : Nat) : Bool := 0xDC00 ≤ unit ∧ unit ≤ 0xDFFF

section Scanning

variable (interpreter : Interpreter)

def unitChar (unit : Nat) : Char := if isHigh unit || isLow unit then interpreter.surrogate unit else Char.ofNat unit

def joinUnits : List Nat → Str
  | [] => []
  | [unit] => [unitChar interpreter unit]
  | unit :: low :: rest =>
      if isHigh unit && isLow low then
        Char.ofNat (0x10000 + (unit - 0xD800) * 0x400 + (low - 0xDC00)) :: joinUnits rest
      else unitChar interpreter unit :: joinUnits (low :: rest)

def scanString (text : Str) : Except PyException (Str × Str) :=
  match text with
  | '"' :: rest => (stringUnits rest).map (fun found => (joinUnits interpreter found.1, found.2))
  | _ => .error .jsonDecodeError

def scanInteger (text : Str) : Except PyException (Str × Str) :=
  match text with
  | [] => .error .jsonDecodeError
  | c :: rest =>
      if c = '0' then .ok (['0'], rest)
      else if c.isDigit then .ok (c :: rest.takeWhile Char.isDigit, rest.dropWhile Char.isDigit)
      else .error .jsonDecodeError

def scanFraction (text : Str) : Str × Str :=
  match text with
  | '.' :: digits =>
      if digits.head?.any Char.isDigit then ('.' :: digits.takeWhile Char.isDigit, digits.dropWhile Char.isDigit)
      else ([], text)
  | _ => ([], text)

def splitSign (text : Str) : Str × Str :=
  match text with
  | '+' :: rest => (['+'], rest)
  | '-' :: rest => (['-'], rest)
  | _ => ([], text)

def scanExponent (text : Str) : Str × Str :=
  match text with
  | [] => ([], [])
  | e :: rest =>
      let (sign, digits) := splitSign rest
      if (e = 'e' ∨ e = 'E') ∧ digits.head?.any Char.isDigit then
        (e :: sign ++ digits.takeWhile Char.isDigit, digits.dropWhile Char.isDigit)
      else ([], text)

def signed (negative : Bool) (n : Nat) : Int := if negative then -(n : Int) else n

def numberValue (negative : Bool) (integer fraction exponent : Str) : Except PyException Json :=
  if fraction = [] ∧ exponent = [] then
    if interpreter.intMaxStrDigits < integer.length then .error .valueError
    else .ok (.int (signed negative (Nat.ofDigitChars 10 integer 0)))
  else .ok (.float (interpreter.float ((if negative then ['-'] else []) ++ integer ++ fraction ++ exponent)))

def isNegative (text : Str) : Bool := text.head? = some '-'

def unsigned (text : Str) : Str := if isNegative text then text.tail else text

def scanNumber (text : Str) : Except PyException (Json × Str) :=
  match scanInteger (unsigned text) with
  | .error raised => .error raised
  | .ok (integer, rest) =>
      let fraction := scanFraction rest
      let exponent := scanExponent fraction.2
      (numberValue interpreter (isNegative text) integer fraction.1 exponent.1).map (fun value => (value, exponent.2))

def literals : List (Str × Json) :=
  [("null".toList, .null), ("true".toList, .bool true), ("false".toList, .bool false),
    ("NaN".toList, .float (interpreter.float "NaN".toList)),
    ("Infinity".toList, .float (interpreter.float "Infinity".toList)),
    ("-Infinity".toList, .float (interpreter.float "-Infinity".toList))]

def scanLeaf (text : Str) : Except PyException (Json × Str) :=
  match (literals interpreter).find? (fun literal => literal.1.isPrefixOf text) with
  | some literal => .ok (literal.2, text.drop literal.1.length)
  | none => scanNumber interpreter text

end Scanning

-- The items up to the closing bracket, when there is at least one.
def scanItems {α : Type} (item : Scanner α) (close : Char) (text : Str) : Except PyException (List α × Str) :=
  match _found : item.run text with
  | .error raised => .error raised
  | .ok (value, rest) =>
      match _next : skip rest with
      | [] => .error .jsonDecodeError
      | c :: more =>
          if c = ',' then (scanItems item close (skip more)).map (fun later => (value :: later.1, later.2))
          else if c = close then .ok ([value], more)
          else .error .jsonDecodeError
termination_by text.length
decreasing_by
  have shorter := item.shortens text value rest _found
  have skipped := skip_length rest
  have again := skip_length more
  rw [_next, List.length_cons] at skipped
  omega

def scanBody {α : Type} (item : Scanner α) (close : Char) (text : Str) : Except PyException (List α × Str) :=
  if (skip text).head? = some close then .ok ([], (skip text).tail) else scanItems item close (skip text)

theorem string_units_length (text : Str) (units : List Nat) (rest : Str)
    (scanned : stringUnits text = .ok (units, rest)) : units.length + rest.length < text.length := by
  fun_induction stringUnits text generalizing units with
  | case1 => cases scanned
  | case2 after =>
      cases scanned
      simp
  | case3 => cases scanned
  | case4 first second third fourth after unit read notQuote ih =>
      obtain ⟨found, done, same⟩ := map_ok _ _ _ scanned
      cases same
      have shorter := ih _ done
      simp only [List.length_cons]
      omega
  | case5 => cases scanned
  | case6 e after general unit read notQuote ih =>
      obtain ⟨found, done, same⟩ := map_ok _ _ _ scanned
      cases same
      have shorter := ih _ done
      simp only [List.length_cons]
      omega
  | case7 => cases scanned
  | case8 => cases scanned
  | case9 c after notQuote notBackslash printable ih =>
      obtain ⟨found, done, same⟩ := map_ok _ _ _ scanned
      cases same
      have shorter := ih _ done
      simp only [List.length_cons]
      omega

theorem join_units_length (interpreter : Interpreter) (units : List Nat) :
    (joinUnits interpreter units).length ≤ units.length := by
  fun_induction joinUnits interpreter units with
  | case1 => exact Nat.le_refl _
  | case2 unit => exact Nat.le_refl _
  | case3 unit low rest paired ih =>
      simp only [List.length_cons]
      omega
  | case4 unit low rest alone ih =>
      simp only [List.length_cons] at ih ⊢
      omega

theorem scan_integer_ok (text integer rest : Str) (scanned : scanInteger text = .ok (integer, rest)) :
    (text = '0' :: rest ∧ integer = ['0']) ∨
      ∃ c tail, text = c :: tail ∧ c.isDigit = true ∧ integer = c :: tail.takeWhile Char.isDigit ∧
        rest = tail.dropWhile Char.isDigit := by
  cases text with
  | nil => cases scanned
  | cons c tail =>
      simp only [scanInteger] at scanned
      by_cases zero : c = '0'
      · rw [if_pos zero] at scanned
        cases scanned
        exact .inl ⟨by rw [zero], rfl⟩
      · rw [if_neg zero] at scanned
        by_cases digit : c.isDigit = true
        · rw [if_pos digit] at scanned
          cases scanned
          exact .inr ⟨c, tail, rfl, digit, rfl, rfl⟩
        · rw [if_neg digit] at scanned
          cases scanned

theorem scan_integer_shortens (text integer rest : Str) (scanned : scanInteger text = .ok (integer, rest)) :
    rest.length < text.length := by
  obtain ⟨whole, _⟩ | ⟨c, tail, whole, _, _, dropped⟩ := scan_integer_ok text integer rest scanned
  · simp [whole]
  · have shorter := (List.dropWhile_sublist (l := tail) Char.isDigit).length_le
    rw [whole, dropped, List.length_cons]
    omega

theorem scan_fraction_length (text : Str) : (scanFraction text).2.length ≤ text.length := by
  unfold scanFraction
  split
  next digits =>
    have shorter := (List.dropWhile_sublist (l := digits) Char.isDigit).length_le
    split
    next => simp only [List.length_cons]; omega
    next => exact Nat.le_refl _
  next => exact Nat.le_refl _

theorem split_sign_length (text : Str) : (splitSign text).2.length ≤ text.length := by
  unfold splitSign
  split <;> simp

theorem scan_exponent_length (text : Str) : (scanExponent text).2.length ≤ text.length := by
  cases text with
  | nil => exact Nat.le_refl _
  | cons e rest =>
      have unsigned := split_sign_length rest
      have shorter := (List.dropWhile_sublist (l := (splitSign rest).2) Char.isDigit).length_le
      simp only [scanExponent]
      split
      next => simp only [List.length_cons]; omega
      next => exact Nat.le_refl _

section Values

variable (interpreter : Interpreter)

theorem scan_number_ok (text : Str) (value : Json) (rest : Str) (scanned : scanNumber interpreter text = .ok (value, rest)) :
    ∃ integer after, scanInteger (unsigned text) = .ok (integer, after) ∧
      rest = (scanExponent (scanFraction after).2).2 ∧
      numberValue interpreter (isNegative text) integer (scanFraction after).1 (scanExponent (scanFraction after).2).1 =
        .ok value := by
  unfold scanNumber at scanned
  split at scanned
  next => cases scanned
  next integer after read =>
    obtain ⟨number, done, same⟩ := map_ok _ _ _ scanned
    cases same
    exact ⟨integer, after, read, rfl, done⟩

theorem scan_number_shortens (text : Str) (value : Json) (rest : Str)
    (scanned : scanNumber interpreter text = .ok (value, rest)) : rest.length < text.length := by
  obtain ⟨integer, after, read, same, _⟩ := scan_number_ok interpreter text value rest scanned
  have shorter := scan_integer_shortens _ integer after read
  have fraction := scan_fraction_length after
  have exponent := scan_exponent_length (scanFraction after).2
  have signless : (unsigned text).length ≤ text.length := by
    unfold unsigned
    split <;> simp
  rw [same]
  omega

theorem literals_nonempty : ∀ literal ∈ literals interpreter, 0 < literal.1.length := by
  simp [literals]

theorem scan_leaf_shortens (text : Str) (value : Json) (rest : Str)
    (scanned : scanLeaf interpreter text = .ok (value, rest)) : rest.length < text.length := by
  unfold scanLeaf at scanned
  cases found : (literals interpreter).find? (fun literal => literal.1.isPrefixOf text) with
  | none =>
      rw [found] at scanned
      exact scan_number_shortens interpreter text value rest scanned
  | some literal =>
      rw [found] at scanned
      cases scanned
      have nonempty := literals_nonempty interpreter literal (List.mem_of_find?_eq_some found)
      have starts := List.find?_some (p := fun literal : Str × Json => literal.1.isPrefixOf text) found
      have within := (List.isPrefixOf_iff_prefix.mp starts).length_le
      rw [List.length_drop]
      omega

theorem scan_string_length (text contents rest : Str) (scanned : scanString interpreter text = .ok (contents, rest)) :
    contents.length + 2 + rest.length ≤ text.length := by
  unfold scanString at scanned
  split at scanned
  next after =>
    obtain ⟨found, done, same⟩ := map_ok _ _ _ scanned
    cases same
    have shorter := string_units_length after found.1 found.2 done
    have joined := join_units_length interpreter found.1
    rw [List.length_cons]
    omega
  next => cases scanned

theorem scan_string_shortens (text contents rest : Str) (scanned : scanString interpreter text = .ok (contents, rest)) :
    rest.length < text.length := by
  have length := scan_string_length interpreter text contents rest scanned
  omega

end Values

theorem scan_items_ok {α : Type} (item : Scanner α) (close : Char) (text : Str) (values : List α) (rest : Str)
    (scanned : scanItems item close text = .ok (values, rest)) :
    ∃ value after, item.run text = .ok (value, after) ∧
      ((skip after = close :: rest ∧ values = [value]) ∨
        ∃ more later, skip after = ',' :: more ∧ scanItems item close (skip more) = .ok (later, rest) ∧
          values = value :: later) := by
  rw [scanItems] at scanned
  split at scanned
  next => cases scanned
  next value after found =>
    refine ⟨value, after, found, ?_⟩
    split at scanned
    next => cases scanned
    next c more next =>
      by_cases comma : c = ','
      · rw [if_pos comma] at scanned
        obtain ⟨later, done, same⟩ := map_ok _ _ _ scanned
        cases same
        exact .inr ⟨more, later.1, comma ▸ next, done, rfl⟩
      · rw [if_neg comma] at scanned
        by_cases closes : c = close
        · rw [if_pos closes] at scanned
          cases scanned
          exact .inl ⟨closes ▸ next, rfl⟩
        · rw [if_neg closes] at scanned
          cases scanned

theorem scan_items_shortens {α : Type} (item : Scanner α) (close : Char) (text : Str) (values : List α) (rest : Str)
    (scanned : scanItems item close text = .ok (values, rest)) : rest.length < text.length := by
  induction size : text.length using Nat.strong_induction_on generalizing text values with
  | _ size ih =>
      obtain ⟨value, after, found, closed | ⟨more, later, comma, continued, _⟩⟩ :=
        scan_items_ok item close text values rest scanned
      · have shorter := item.shortens text value after found
        have skipped := skip_length after
        rw [closed.1, List.length_cons] at skipped
        omega
      · have shorter := item.shortens text value after found
        have skipped := skip_length after
        have again := skip_length more
        rw [comma, List.length_cons] at skipped
        have rests := ih (skip more).length (by omega) (skip more) later continued rfl
        omega

theorem scan_body_shortens {α : Type} (item : Scanner α) (close : Char) (text : Str) (values : List α) (rest : Str)
    (scanned : scanBody item close text = .ok (values, rest)) : rest.length ≤ text.length := by
  have skipped := skip_length text
  unfold scanBody at scanned
  by_cases closes : (skip text).head? = some close
  · rw [if_pos closes] at scanned
    cases scanned
    rw [List.length_tail]
    omega
  · rw [if_neg closes] at scanned
    have shorter := scan_items_shortens item close (skip text) values rest scanned
    omega

-- A dict keeps the place of a repeated key and takes its last value.
def assign (name : Str) (value : Json) : List (Str × Json) → List (Str × Json)
  | [] => [(name, value)]
  | (other, old) :: rest => if other = name then (name, value) :: rest else (other, old) :: assign name value rest

def dictOf (pairs : List (Str × Json)) : List (Str × Json) :=
  pairs.foldl (fun members pair => assign pair.1 pair.2 members) []

section Values

variable (interpreter : Interpreter)

def scanMember (value : Scanner Json) (text : Str) : Except PyException ((Str × Json) × Str) :=
  match scanString interpreter text with
  | .error raised => .error raised
  | .ok (name, rest) =>
      match skip rest with
      | ':' :: more => (value.run (skip more)).map (fun found => ((name, found.1), found.2))
      | _ => .error .jsonDecodeError

theorem scan_member_ok (value : Scanner Json) (text : Str) (pair : Str × Json) (rest : Str)
    (scanned : scanMember interpreter value text = .ok (pair, rest)) :
    ∃ after more, scanString interpreter text = .ok (pair.1, after) ∧ skip after = ':' :: more ∧
      value.run (skip more) = .ok (pair.2, rest) := by
  unfold scanMember at scanned
  split at scanned
  next => cases scanned
  next name after named =>
    split at scanned
    next more colon =>
      obtain ⟨found, done, same⟩ := map_ok _ _ _ scanned
      cases same
      exact ⟨after, more, named, colon, done⟩
    next => cases scanned

def memberScanner (value : Scanner Json) : Scanner (Str × Json) where
  run := scanMember interpreter value
  shortens := by
    intro text pair rest scanned
    obtain ⟨after, more, named, colon, done⟩ := scan_member_ok interpreter value text pair rest scanned
    have shorter := scan_string_shortens interpreter text pair.1 after named
    have skipped := skip_length after
    have again := skip_length more
    have rests := value.shortens (skip more) pair.2 rest done
    rw [colon, List.length_cons] at skipped
    omega

-- One value, with the scanner for what it may hold; none where the
-- interpreter bears no further nesting.
def scanNested (nested : Option (Scanner Json)) (text : Str) : Except PyException (Json × Str) :=
  match text with
  | '"' :: _ => (scanString interpreter text).map (fun found => (.str found.1, found.2))
  | '[' :: rest =>
      match nested with
      | none => .error .recursionError
      | some value => (scanBody value ']' rest).map (fun found => (.array found.1, found.2))
  | '{' :: rest =>
      match nested with
      | none => .error .recursionError
      | some value => (scanBody (memberScanner interpreter value) '}' rest).map (fun found => (.object (dictOf found.1), found.2))
  | _ => scanLeaf interpreter text

def valueScanner (nested : Option (Scanner Json)) : Scanner Json where
  run := scanNested interpreter nested
  shortens := by
    intro text value rest scanned
    unfold scanNested at scanned
    split at scanned
    next =>
      obtain ⟨found, done, same⟩ := map_ok _ _ _ scanned
      cases same
      exact scan_string_shortens interpreter _ found.1 found.2 done
    next after =>
      split at scanned
      next => cases scanned
      next inner =>
        obtain ⟨found, done, same⟩ := map_ok _ _ _ scanned
        cases same
        exact Nat.lt_succ_of_le (scan_body_shortens _ _ after found.1 found.2 done)
    next after =>
      split at scanned
      next => cases scanned
      next inner =>
        obtain ⟨found, done, same⟩ := map_ok _ _ _ scanned
        cases same
        exact Nat.lt_succ_of_le (scan_body_shortens _ _ after found.1 found.2 done)
    next => exact scan_leaf_shortens interpreter text value rest scanned

def scanValue : Nat → Scanner Json
  | 0 => valueScanner interpreter none
  | depth + 1 => valueScanner interpreter (some (scanValue depth))

-- json.loads. The nesting is what may stand inside the outermost value.
def loads (text : Str) : Except PyException Json :=
  if text.head? = some (Char.ofNat 0xFEFF) then .error .jsonDecodeError
  else
    match (scanValue interpreter (interpreter.nesting + 1)).run (skip text) with
    | .error raised => .error raised
    | .ok (value, rest) => if skip rest = [] then .ok value else .error .jsonDecodeError

end Values

end Chassis.JsonText
