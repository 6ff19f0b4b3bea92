import Chassis.JsonLimits

set_option autoImplicit false

namespace Chassis.Helm

open JsonText (hexGroups)

def isBreak (c : Char) : Bool :=
  c = '\n' || c = '\r' || c.toNat = 0x85 || c.toNat = 0x2028 || c.toNat = 0x2029

-- strconv.IsPrint, which takes no line break for printable.
structure Printing where
  printable : Char → Bool
  breaks : ∀ c, printable c = true → isBreak c = false

-- The escapes that both Go and YAML know by a letter.
def goEscapes : List (Char × Char) :=
  [('a', Char.ofNat 7), ('b', Char.ofNat 8), ('f', Char.ofNat 12), ('n', '\n'), ('r', '\r'), ('t', '\t'),
    ('v', Char.ofNat 11)]

def yamlEscapes : List (Char × Char) :=
  goEscapes ++
    [('"', '"'), ('\\', '\\'), ('/', '/'), (' ', ' '), ('\t', '\t'), ('0', Char.ofNat 0), ('e', Char.ofNat 27),
      ('N', Char.ofNat 0x85), ('_', Char.ofNat 0xA0), ('L', Char.ofNat 0x2028), ('P', Char.ofNat 0x2029)]

def goChar (printing : Printing) (c : Char) : Str :=
  if c = '"' ∨ c = '\\' then ['\\', c]
  else if printing.printable c = true then [c]
  else
    match goEscapes.find? (fun escape => escape.2 = c) with
    | some escape => ['\\', escape.1]
    | none =>
        if c.toNat < 32 ∨ c.toNat = 127 then '\\' :: 'x' :: hexGroups 2 c.toNat
        else if c.toNat < 0x10000 then '\\' :: 'u' :: hexGroups 4 c.toNat
        else '\\' :: 'U' :: hexGroups 8 c.toNat

-- fmt.Sprintf("%q", text)
def goQuote (printing : Printing) (text : Str) : Str := '"' :: text.flatMap (goChar printing) ++ ['"']

-- Inside a double-quoted scalar: in plain text, after a backslash, or before
-- the digits of a numbered escape that are still to come.
inductive Reading where
  | plain
  | escape
  | hex (left acc : Nat)

def escapeWidth (c : Char) : Option Nat :=
  if c = 'x' then some 2 else if c = 'u' then some 4 else if c = 'U' then some 8 else none

def unicodeScalar (code : Nat) : Option Char := if code.isValidChar then some (Char.ofNat code) else none

-- What follows the opening quote. A raw line break would be folded; none is read here.
def readQuoted : Reading → Str → Option Str
  | _, [] => none
  | .plain, c :: rest =>
      if c = '"' then if rest = [] then some [] else none
      else if c = '\\' then readQuoted .escape rest
      else if isBreak c = true then none
      else (readQuoted .plain rest).map (c :: ·)
  | .escape, c :: rest =>
      match escapeWidth c with
      | some width => readQuoted (.hex width 0) rest
      | none =>
          match yamlEscapes.find? (fun escape => escape.1 = c) with
          | some escape => (readQuoted .plain rest).map (escape.2 :: ·)
          | none => none
  | .hex left acc, c :: rest =>
      match Digits.hexValue c with
      | none => none
      | some digit =>
          if left = 1 then
            (unicodeScalar (acc * 16 + digit)).bind (fun named => (readQuoted .plain rest).map (named :: ·))
          else readQuoted (.hex (left - 1) (acc * 16 + digit)) rest

-- The string of a scalar on the line of its key; none for an empty one, which
-- YAML reads as null.
def readScalar : Str → Option Str
  | '"' :: rest => readQuoted .plain rest
  | _ => none

def ReadsAs (written : Str) (c : Char) : Prop :=
  ∀ rest, readQuoted .plain (written ++ rest) = (readQuoted .plain rest).map (c :: ·)

theorem reads_itself (c : Char) (notQuote : c ≠ '"') (notBackslash : c ≠ '\\') (unbroken : isBreak c = false) :
    ReadsAs [c] c := by
  intro rest
  rw [List.singleton_append, readQuoted, if_neg notQuote, if_neg notBackslash, if_neg (by simp [unbroken])]

theorem reads_escape (named c : Char) (letter : escapeWidth named = none)
    (known : yamlEscapes.find? (fun escape => escape.1 = named) = some (named, c)) : ReadsAs ['\\', named] c := by
  intro rest
  rw [List.cons_append, List.singleton_append, readQuoted, if_neg (by decide), if_pos rfl, readQuoted]
  simp only [letter, known]

theorem read_hex (groups : List Nat) (digits : ∀ group ∈ groups, group < 16) (nonempty : groups ≠ []) (acc : Nat)
    (rest : Str) :
    readQuoted (.hex groups.length acc) (groups.map Nat.digitChar ++ rest) =
      (unicodeScalar (Digits.ofGroups 16 acc groups)).bind (fun named => (readQuoted .plain rest).map (named :: ·)) := by
  induction groups generalizing acc with
  | nil => exact absurd rfl nonempty
  | cons group others ih =>
      have digit := Digits.hex_value_digit_char group (digits group (by simp))
      rw [List.map_cons, List.cons_append, readQuoted, digit]
      dsimp only
      cases others with
      | nil => rw [List.length_singleton, if_pos rfl, List.map_nil, List.nil_append]; rfl
      | cons second others =>
          rw [List.length_cons, if_neg (by simp), Nat.add_sub_cancel]
          exact ih (fun other member => digits other (by simp [member])) (by simp) (acc * 16 + group)

theorem unicode_scalar_char (c : Char) : unicodeScalar c.toNat = some c := by
  have valid : c.toNat.isValidChar := c.valid
  rw [unicodeScalar, if_pos valid, Char.ofNat_toNat]

theorem reads_numbered (c marker : Char) (width : Nat) (marked : escapeWidth marker = some width) (some : 0 < width)
    (bound : c.toNat < 16 ^ width) : ReadsAs ('\\' :: marker :: hexGroups width c.toNat) c := by
  intro rest
  have length := Digits.to_groups_length 16 width c.toNat
  have read := read_hex (Digits.toGroups 16 width c.toNat) (Digits.to_groups_lt 16 width c.toNat (by decide))
    (List.ne_nil_of_length_pos (by omega)) 0 rest
  rw [length, Digits.of_groups_to_groups 16 width c.toNat bound, unicode_scalar_char] at read
  rw [List.cons_append, List.cons_append, readQuoted, if_neg (by decide), if_pos rfl, readQuoted]
  simp only [marked]
  exact read

theorem go_escapes_known : ∀ escape ∈ goEscapes, escapeWidth escape.1 = none ∧
    yamlEscapes.find? (fun other => other.1 = escape.1) = some (escape.1, escape.2) := by
  decide

theorem reads_go_char (printing : Printing) (c : Char) : ReadsAs (goChar printing c) c := by
  unfold goChar
  by_cases mark : c = '"' ∨ c = '\\'
  · rw [if_pos mark]
    rcases mark with rfl | rfl
    · exact reads_escape '"' '"' (by decide) (by decide)
    · exact reads_escape '\\' '\\' (by decide) (by decide)
  · rw [if_neg mark]
    obtain ⟨notQuote, notBackslash⟩ := not_or.mp mark
    by_cases shown : printing.printable c = true
    · rw [if_pos shown]
      exact reads_itself c notQuote notBackslash (printing.breaks c shown)
    · rw [if_neg shown]
      cases found : goEscapes.find? (fun escape => escape.2 = c) with
      | some escape =>
          obtain ⟨letter, known⟩ := go_escapes_known escape (List.mem_of_find?_eq_some found)
          have same : escape.2 = c := by simpa using List.find?_some found
          rw [← same]
          exact reads_escape escape.1 escape.2 letter known
      | none =>
          dsimp only
          by_cases control : c.toNat < 32 ∨ c.toNat = 127
          · rw [if_pos control]
            exact reads_numbered c 'x' 2 (by decide) (by decide) (by omega)
          · rw [if_neg control]
            by_cases basic : c.toNat < 0x10000
            · rw [if_pos basic]
              exact reads_numbered c 'u' 4 (by decide) (by decide) (by omega)
            · rw [if_neg basic]
              have bound : c.toNat < 0x110000 := by
                rcases c.valid with low | high
                · exact Nat.lt_trans low (by decide)
                · exact high.2
              exact reads_numbered c 'U' 8 (by decide) (by decide) (by omega)

theorem read_quoted_text (printing : Printing) (text : Str) :
    readQuoted .plain (text.flatMap (goChar printing) ++ ['"']) = some text := by
  induction text with
  | nil => rfl
  | cons c rest ih =>
      rw [List.flatMap_cons, List.append_assoc, reads_go_char printing c, ih]
      rfl

theorem read_go_quote (printing : Printing) (text : Str) : readScalar (goQuote printing text) = some text :=
  read_quoted_text printing text

end Chassis.Helm
