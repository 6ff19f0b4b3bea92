import Chassis.JsonLimits

set_option autoImplicit false

namespace Chassis.JsonText

open Text

-- The options of json.dumps that change its text for strings and their lists.
structure DumpsOptions where
  ensureAscii : Bool
  compact : Bool

def unicodeEscape (unit : Nat) : Str := '\\' :: 'u' :: hexGroups 4 unit

def highUnit (code : Nat) : Nat := 0xD800 + (code - 0x10000) / 0x400

def lowUnit (code : Nat) : Nat := 0xDC00 + (code - 0x10000) % 0x400

def escapeChar (ensureAscii : Bool) (c : Char) : Str :=
  if c = '"' then ['\\', '"']
  else if c = '\\' then ['\\', '\\']
  else if c = '\n' then ['\\', 'n']
  else if c = '\r' then ['\\', 'r']
  else if c = '\t' then ['\\', 't']
  else if c = Char.ofNat 12 then ['\\', 'f']
  else if c = Char.ofNat 8 then ['\\', 'b']
  else if c.toNat < 32 ∨ (ensureAscii = true ∧ 126 < c.toNat) then
    if c.toNat < 0x10000 then unicodeEscape c.toNat
    else unicodeEscape (highUnit c.toNat) ++ unicodeEscape (lowUnit c.toNat)
  else [c]

def dumpsStr (ensureAscii : Bool) (text : Str) : Str := '"' :: text.flatMap (escapeChar ensureAscii) ++ ['"']

def itemSeparator (options : DumpsOptions) : Str := if options.compact then [','] else [',', ' ']

def keySeparator (options : DumpsOptions) : Str := if options.compact then [':'] else [':', ' ']

-- json.dumps of a list of strings, and of a dict of strings.
def dumpsList (options : DumpsOptions) (items : List Str) : Str :=
  '[' :: join (itemSeparator options) (items.map (dumpsStr options.ensureAscii)) ++ [']']

def dumpsMember (options : DumpsOptions) (member : Str × Str) : Str :=
  dumpsStr options.ensureAscii member.1 ++ keySeparator options ++ dumpsStr options.ensureAscii member.2

def dumpsDict (options : DumpsOptions) (members : List (Str × Str)) : Str :=
  '{' :: join (itemSeparator options) (members.map (dumpsMember options)) ++ ['}']

theorem skip_cons (c : Char) (rest : Str) (mark : isBlank c = false) : skip (c :: rest) = c :: rest := by
  rw [skip, List.dropWhile_cons_of_neg (by simp [mark])]

theorem hex_fold_groups (groups : List Nat) (acc : Nat) (digits : ∀ group ∈ groups, group < 16) :
    Digits.hexFold acc (groups.map Nat.digitChar) = some (Digits.ofGroups 16 acc groups) := by
  induction groups generalizing acc with
  | nil => rfl
  | cons group rest ih =>
      have digit := Digits.hex_value_digit_char group (digits group (by simp))
      have later := ih (acc * 16 + group) (fun other member => digits other (by simp [member]))
      simp [Digits.hexFold, digit, later, Digits.ofGroups]

theorem hex_groups_read (unit : Nat) (bound : unit < 0x10000) : Digits.hexFold 0 (hexGroups 4 unit) = some unit := by
  rw [hexGroups, hex_fold_groups _ 0 (Digits.to_groups_lt 16 4 unit (by decide))]
  rw [Digits.of_groups_to_groups 16 4 unit (by simpa using bound)]

def Reads (text : Str) (units : List Nat) : Prop :=
  ∀ rest, stringUnits (text ++ rest) = (stringUnits rest).map (fun found => (units ++ found.1, found.2))

theorem reads_append (left right : Str) (first second : List Nat) (leftReads : Reads left first)
    (rightReads : Reads right second) : Reads (left ++ right) (first ++ second) := by
  intro rest
  rw [List.append_assoc, leftReads, rightReads]
  cases stringUnits rest <;> simp [Except.map]

theorem reads_unicode (unit : Nat) (bound : unit < 0x10000) : Reads (unicodeEscape unit) [unit] := by
  intro rest
  obtain ⟨first, second, third, fourth, four⟩ : ∃ first second third fourth, hexGroups 4 unit = [first, second, third, fourth] :=
    ⟨_, _, _, _, rfl⟩
  have read := hex_groups_read unit bound
  rw [four] at read
  simp [unicodeEscape, four, stringUnits, read]

theorem reads_escaped (c : Char) (unit : Nat) (general : c ≠ 'u') (named : escaped c = some unit) : Reads ['\\', c] [unit] := by
  intro rest
  simp [stringUnits, general, named]

theorem reads_plain (c : Char) (notQuote : c ≠ '"') (notBackslash : c ≠ '\\') (printable : 32 ≤ c.toNat) :
    Reads [c] [c.toNat] := by
  intro rest
  rw [List.singleton_append, stringUnits.eq_def]
  simp [notQuote, notBackslash, Nat.not_lt.mpr printable]

def charUnits (ensureAscii : Bool) (c : Char) : List Nat :=
  if ensureAscii = true ∧ 0x10000 ≤ c.toNat then [highUnit c.toNat, lowUnit c.toNat] else [c.toNat]

theorem char_units_basic (ensureAscii : Bool) (c : Char) (basic : c.toNat < 0x10000) :
    charUnits ensureAscii c = [c.toNat] :=
  if_neg (fun pair => Nat.not_le.mpr basic pair.2)

theorem char_to_nat_lt (c : Char) : c.toNat < 0x110000 := by
  rcases c.valid with low | high
  · exact Nat.lt_trans low (by decide)
  · exact high.2

theorem units_lt (code : Nat) (bound : code < 0x110000) : highUnit code < 0x10000 ∧ lowUnit code < 0x10000 := by
  unfold highUnit lowUnit
  omega

theorem reads_escape_char (ensureAscii : Bool) (c : Char) :
    Reads (escapeChar ensureAscii c) (charUnits ensureAscii c) := by
  have bound := char_to_nat_lt c
  by_cases short : c = '"' ∨ c = '\\' ∨ c = '\n' ∨ c = '\r' ∨ c = '\t' ∨ c = Char.ofNat 12 ∨ c = Char.ofNat 8
  · have basic : c.toNat < 0x10000 := by
      rcases short with rfl | rfl | rfl | rfl | rfl | rfl | rfl <;> decide
    rw [char_units_basic ensureAscii c basic]
    rcases short with rfl | rfl | rfl | rfl | rfl | rfl | rfl
    · exact reads_escaped '"' 34 (by decide) rfl
    · exact reads_escaped '\\' 92 (by decide) rfl
    · exact reads_escaped 'n' 10 (by decide) rfl
    · exact reads_escaped 'r' 13 (by decide) rfl
    · exact reads_escaped 't' 9 (by decide) rfl
    · exact reads_escaped 'f' 12 (by decide) rfl
    · exact reads_escaped 'b' 8 (by decide) rfl
  · obtain ⟨notQuote, notBackslash, notNewline, notReturn, notTab, notFeed, notBack⟩ := by simpa using short
    simp only [escapeChar, notQuote, notBackslash, notNewline, notReturn, notTab, notFeed, notBack, if_false]
    by_cases hidden : c.toNat < 32 ∨ (ensureAscii = true ∧ 126 < c.toNat)
    · rw [if_pos hidden]
      by_cases basic : c.toNat < 0x10000
      · rw [if_pos basic, char_units_basic ensureAscii c basic]
        exact reads_unicode c.toNat basic
      · have units := units_lt c.toNat bound
        have wide := hidden.resolve_left (by omega)
        rw [if_neg basic, charUnits, if_pos ⟨wide.1, Nat.le_of_not_lt basic⟩]
        exact reads_append _ _ [_] _ (reads_unicode _ units.1) (reads_unicode _ units.2)
    · have single : ¬ (ensureAscii = true ∧ 0x10000 ≤ c.toNat) :=
        fun pair => hidden (.inr ⟨pair.1, Nat.lt_of_lt_of_le (by decide) pair.2⟩)
      rw [if_neg hidden, charUnits, if_neg single]
      exact reads_plain c notQuote notBackslash (Nat.le_of_not_lt (fun control => hidden (.inl control)))

theorem reads_text (ensureAscii : Bool) (text : Str) :
    Reads (text.flatMap (escapeChar ensureAscii)) (text.flatMap (charUnits ensureAscii)) := by
  induction text with
  | nil =>
      intro rest
      cases found : stringUnits rest <;> simp [found, Except.map]
  | cons c rest ih =>
      rw [List.flatMap_cons, List.flatMap_cons]
      exact reads_append _ _ _ _ (reads_escape_char ensureAscii c) ih

section RoundTrip

variable (interpreter : Interpreter)

theorem char_not_surrogate (c : Char) : isHigh c.toNat = false ∧ isLow c.toNat = false := by
  have outside : c.toNat < 0xD800 ∨ 0xDFFF < c.toNat := by
    rcases c.valid with low | high
    · exact .inl low
    · exact .inr high.1
  simp only [isHigh, isLow, decide_eq_false_iff_not]
  omega

theorem join_units_plain (c : Char) (rest : List Nat) :
    joinUnits interpreter (c.toNat :: rest) = c :: joinUnits interpreter rest := by
  obtain ⟨notHigh, notLow⟩ := char_not_surrogate c
  cases rest <;> simp [joinUnits, unitChar, notHigh, notLow]

theorem join_units_pair (c : Char) (astral : 0x10000 ≤ c.toNat) (rest : List Nat) :
    joinUnits interpreter (highUnit c.toNat :: lowUnit c.toNat :: rest) = c :: joinUnits interpreter rest := by
  have bound := char_to_nat_lt c
  have ranges : (0xD800 ≤ highUnit c.toNat ∧ highUnit c.toNat ≤ 0xDBFF) ∧
      0xDC00 ≤ lowUnit c.toNat ∧ lowUnit c.toNat ≤ 0xDFFF := by
    unfold highUnit lowUnit
    omega
  have high : isHigh (highUnit c.toNat) = true := decide_eq_true ranges.1
  have low : isLow (lowUnit c.toNat) = true := decide_eq_true ranges.2
  have code : 0x10000 + (highUnit c.toNat - 0xD800) * 0x400 + (lowUnit c.toNat - 0xDC00) = c.toNat := by
    simp only [highUnit, lowUnit]
    omega
  rw [joinUnits, high, low, code, Char.ofNat_toNat]
  rfl

theorem join_units_text (ensureAscii : Bool) (text : Str) :
    joinUnits interpreter (text.flatMap (charUnits ensureAscii)) = text := by
  induction text with
  | nil => rfl
  | cons c rest ih =>
      rw [List.flatMap_cons, charUnits]
      by_cases pair : ensureAscii = true ∧ 0x10000 ≤ c.toNat
      · rw [if_pos pair, List.cons_append, List.singleton_append, join_units_pair interpreter c pair.2, ih]
      · rw [if_neg pair, List.singleton_append, join_units_plain, ih]

theorem string_units_quote (rest : Str) : stringUnits ('"' :: rest) = .ok ([], rest) := by
  rw [stringUnits.eq_def]
  simp

theorem scan_dumped_str (ensureAscii : Bool) (text rest : Str) :
    scanString interpreter (dumpsStr ensureAscii text ++ rest) = .ok (text, rest) := by
  have opened : dumpsStr ensureAscii text ++ rest = '"' :: (text.flatMap (escapeChar ensureAscii) ++ '"' :: rest) := by
    simp [dumpsStr]
  rw [opened, scanString, reads_text ensureAscii text, string_units_quote]
  simp [Except.map, join_units_text]

def Scans {α : Type} (item : Scanner α) (text : Str) (value : α) : Prop :=
  text.head? = some '"' ∧ ∀ rest, item.run (text ++ rest) = .ok (value, rest)

theorem value_scans (depth : Nat) (ensureAscii : Bool) (text : Str) :
    Scans (scanValue interpreter depth) (dumpsStr ensureAscii text) (.str text) := by
  refine ⟨rfl, ?_⟩
  intro rest
  have nested (inner : Option (Scanner Json)) :
      scanNested interpreter inner (dumpsStr ensureAscii text ++ rest) =
        (scanString interpreter (dumpsStr ensureAscii text ++ rest)).map (fun found => (Json.str found.1, found.2)) := rfl
  rw [scan_dumped_str] at nested
  cases depth with
  | zero => exact nested none
  | succ depth => exact nested (some (scanValue interpreter depth))

theorem skip_quoted (text rest : Str) (quoted : text.head? = some '"') : skip (text ++ rest) = text ++ rest := by
  cases text with
  | nil => cases quoted
  | cons c tail =>
      cases quoted
      exact skip_cons '"' (tail ++ rest) rfl

theorem key_separator_skip (options : DumpsOptions) (text rest : Str) (quoted : text.head? = some '"') :
    ∃ more, skip (keySeparator options ++ (text ++ rest)) = ':' :: more ∧ skip more = text ++ rest := by
  cases compact : options.compact with
  | true =>
      refine ⟨text ++ rest, ?_, skip_quoted text rest quoted⟩
      simp [keySeparator, compact, skip_cons ':' _ rfl]
  | false =>
      refine ⟨' ' :: (text ++ rest), ?_, ?_⟩
      · simp [keySeparator, compact, skip_cons ':' _ rfl]
      · exact skip_quoted text rest quoted

theorem item_separator_skip (options : DumpsOptions) (text rest : Str) (quoted : text.head? = some '"') :
    ∃ more, skip (itemSeparator options ++ (text ++ rest)) = ',' :: more ∧ skip more = text ++ rest := by
  cases compact : options.compact with
  | true =>
      refine ⟨text ++ rest, ?_, skip_quoted text rest quoted⟩
      simp [itemSeparator, compact, skip_cons ',' _ rfl]
  | false =>
      refine ⟨' ' :: (text ++ rest), ?_, ?_⟩
      · simp [itemSeparator, compact, skip_cons ',' _ rfl]
      · exact skip_quoted text rest quoted

theorem member_scans (depth : Nat) (options : DumpsOptions) (member : Str × Str) :
    Scans (memberScanner interpreter (scanValue interpreter depth)) (dumpsMember options member)
      (member.1, .str member.2) := by
  refine ⟨rfl, ?_⟩
  intro rest
  have scans := value_scans interpreter depth options.ensureAscii member.2
  obtain ⟨more, colon, skipped⟩ := key_separator_skip options (dumpsStr options.ensureAscii member.2) rest scans.1
  change scanMember interpreter (scanValue interpreter depth) (dumpsMember options member ++ rest) = _
  rw [dumpsMember, List.append_assoc, List.append_assoc, scanMember, scan_dumped_str]
  simp only [colon, skipped, scans.2]
  rfl

theorem scan_items_last {α : Type} (item : Scanner α) (close : Char) (text rest more : Str) (value : α)
    (found : item.run text = .ok (value, rest)) (closes : skip rest = close :: more) (bracket : close ≠ ',') :
    scanItems item close text = .ok ([value], more) := by
  rw [scanItems]
  split
  next raised failed =>
    rw [found] at failed
    cases failed
  next other after same =>
    rw [found] at same
    cases same
    split
    next empty =>
      rw [closes] at empty
      cases empty
    next c later next =>
      rw [closes] at next
      cases next
      rw [if_neg bracket, if_pos rfl]

theorem scan_items_more {α : Type} (item : Scanner α) (close : Char) (text rest more : Str) (value : α)
    (found : item.run text = .ok (value, rest)) (comma : skip rest = ',' :: more) :
    scanItems item close text =
      (scanItems item close (skip more)).map (fun later => (value :: later.1, later.2)) := by
  conv => lhs; rw [scanItems]
  split
  next raised failed =>
    rw [found] at failed
    cases failed
  next other after same =>
    rw [found] at same
    cases same
    split
    next empty =>
      rw [comma] at empty
      cases empty
    next c later next =>
      rw [comma] at next
      cases next
      rw [if_pos rfl]

theorem scan_joined {α β : Type} (item : Scanner β) (close : Char) (bracket : close ≠ ',' ∧ isBlank close = false)
    (options : DumpsOptions) (dump : α → Str) (read : α → β) (scans : ∀ value, Scans item (dump value) (read value))
    (first : α) (values : List α) (rest : Str) :
    scanItems item close (join (itemSeparator options) ((first :: values).map dump) ++ close :: rest) =
      .ok ((first :: values).map read, rest) := by
  induction values generalizing first with
  | nil =>
      have closes := skip_cons close rest bracket.2
      have found := (scans first).2 (close :: rest)
      simpa using scan_items_last item close _ _ rest (read first) found closes bracket.1
  | cons second values ih =>
      have quoted : (join (itemSeparator options) ((second :: values).map dump)).head? = some '"' := by
        have own := (scans second).1
        cases values <;> simp [own]
      obtain ⟨more, comma, skipped⟩ := item_separator_skip options _ (close :: rest) quoted
      have found := (scans first).2 (itemSeparator options ++
        (join (itemSeparator options) ((second :: values).map dump) ++ close :: rest))
      have continued := scan_items_more item close _ _ more (read first) found comma
      rw [skipped, ih second] at continued
      rw [List.map_cons, List.map_cons, join_cons, List.append_assoc, List.append_assoc, ← List.map_cons, continued]
      rfl

theorem scan_dumped_body {α β : Type} (item : Scanner β) (close : Char)
    (bracket : close ≠ ',' ∧ isBlank close = false ∧ close ≠ '"')
    (options : DumpsOptions) (dump : α → Str) (read : α → β) (scans : ∀ value, Scans item (dump value) (read value))
    (values : List α) (rest : Str) :
    scanBody item close (join (itemSeparator options) (values.map dump) ++ close :: rest) = .ok (values.map read, rest) := by
  cases values with
  | nil =>
      have closes := skip_cons close rest bracket.2.1
      simp [scanBody, join, List.intercalate, closes]
  | cons first values =>
      have quoted : (join (itemSeparator options) ((first :: values).map dump)).head? = some '"' := by
        have own := (scans first).1
        cases values <;> simp [own]
      have skipped := skip_quoted _ (close :: rest) quoted
      have opened : (join (itemSeparator options) ((first :: values).map dump) ++ close :: rest).head? ≠ some close := by
        rw [List.head?_append, quoted]
        simpa using bracket.2.2.symm
      rw [scanBody, skipped, if_neg opened]
      exact scan_joined item close ⟨bracket.1, bracket.2.1⟩ options dump read scans first values rest

theorem loads_dumped (opening : Char) (body : Str) (value : Json) (mark : isBlank opening = false)
    (text : opening ≠ Char.ofNat 0xFEFF)
    (scanned : (scanValue interpreter (interpreter.nesting + 1)).run (opening :: body) = .ok (value, [])) :
    loads interpreter (opening :: body) = .ok value := by
  rw [loads, if_neg (by simpa using text), skip_cons opening body mark, scanned]
  rfl

theorem scan_value_array (depth : Nat) (body : Str) :
    (scanValue interpreter (depth + 1)).run ('[' :: body) =
      (scanBody (scanValue interpreter depth) ']' body).map (fun found => (.array found.1, found.2)) := rfl

theorem scan_value_object (depth : Nat) (body : Str) :
    (scanValue interpreter (depth + 1)).run ('{' :: body) =
      (scanBody (memberScanner interpreter (scanValue interpreter depth)) '}' body).map
        (fun found => (.object (dictOf found.1), found.2)) := rfl

theorem loads_dumps_list (options : DumpsOptions) (items : List Str) :
    loads interpreter (dumpsList options items) = .ok (.array (items.map Json.str)) := by
  have body := scan_dumped_body (scanValue interpreter interpreter.nesting) ']' (by decide) options
    (dumpsStr options.ensureAscii) Json.str (value_scans interpreter interpreter.nesting options.ensureAscii) items []
  refine loads_dumped interpreter '[' (_ ++ [']']) _ rfl (by decide) ?_
  rw [scan_value_array, body]
  rfl

theorem loads_dumps_dict (options : DumpsOptions) (members : List (Str × Str)) :
    loads interpreter (dumpsDict options members) =
      .ok (.object (dictOf (members.map (fun member => (member.1, Json.str member.2))))) := by
  have body := scan_dumped_body (memberScanner interpreter (scanValue interpreter interpreter.nesting)) '}' (by decide)
    options (dumpsMember options) (fun member => (member.1, Json.str member.2))
    (member_scans interpreter interpreter.nesting options) members []
  refine loads_dumped interpreter '{' (_ ++ ['}']) _ rfl (by decide) ?_
  rw [scan_value_object, body]
  rfl

end RoundTrip

end Chassis.JsonText
