import Mathlib.Data.Nat.Digits.Defs
import Mathlib.Data.List.DropRight

set_option autoImplicit false

namespace Chassis

abbrev Str := List Char
abbrev Bytes := List UInt8

-- Shared by the membership tests of every module.
instance : LawfulBEq Str := inferInstance

namespace Text

def nul : Char := Char.ofNat 0

-- str.isspace, for one character.
def isSpace (c : Char) : Bool :=
  let code := c.toNat
  (9 ≤ code ∧ code ≤ 13) || (28 ≤ code ∧ code ≤ 32) || code == 0x85 || code == 0xA0 || code == 0x1680 ||
    (0x2000 ≤ code ∧ code ≤ 0x200A) || code == 0x2028 || code == 0x2029 || code == 0x202F ||
    code == 0x205F || code == 0x3000

def strip (text : Str) : Str := (text.dropWhile isSpace).rdropWhile isSpace

-- bytes.decode("latin-1")
def latin1 (raw : Bytes) : Str := raw.map (fun byte => Char.ofNat byte.toNat)

-- str.encode("latin-1"), none where it raises UnicodeEncodeError.
def encodeLatin1 (text : Str) : Option Bytes :=
  if text.all (fun c => c.toNat < 256) then some (text.map (fun c => UInt8.ofNat c.toNat)) else none

-- str.encode("utf-8")
def utf8 (text : Str) : Bytes := text.flatMap String.utf8EncodeChar

-- bytes.decode("utf-8"), none where it raises UnicodeDecodeError.
def decodeUtf8 (raw : Bytes) : Option Str := raw.toByteArray.utf8Decode?.map Array.toList

-- bytes.lower
def lower (raw : Bytes) : Bytes := raw.map (fun byte => if 65 ≤ byte ∧ byte ≤ 90 then byte + 32 else byte)

-- A bytes literal written in ASCII.
def ascii (text : String) : Bytes := text.toList.map (fun c => UInt8.ofNat c.toNat)

def natText (n : Nat) : Str := Nat.toDigits 10 n

def intText : Int → Str
  | .ofNat n => natText n
  | .negSucc n => '-' :: natText (n + 1)

def join (separator : Str) (parts : List Str) : Str := separator.intercalate parts

theorem latin1_append (left right : Bytes) : latin1 (left ++ right) = latin1 left ++ latin1 right :=
  List.map_append

theorem decode_utf8 (text : Str) : decodeUtf8 (utf8 text) = some text := by
  have decoded : (utf8 text).toByteArray.utf8Decode? = some text.toArray := List.utf8Decode?_utf8Encode
  rw [decodeUtf8, decoded]
  rfl

theorem utf8_decoded (raw : Bytes) (text : Str) (decoded : decodeUtf8 raw = some text) : utf8 text = raw := by
  obtain ⟨array, found, same⟩ := Option.map_eq_some_iff.mp decoded
  have isSome : raw.toByteArray.utf8Decode?.isSome = true := by simp [found]
  have encoded := ByteArray.utf8Encode_get_utf8Decode? (h := isSome)
  have read : raw.toByteArray.utf8Decode?.get isSome = array := by simp [found]
  rw [read, same] at encoded
  exact List.toByteArray_inj.mp encoded

theorem nat_text_injective (left right : Nat) (same : natText left = natText right) : left = right := by
  have read := congrArg (fun text => Nat.ofDigitChars 10 text 0) same
  simpa [natText] using read

theorem int_text_chars (n : Int) : ∀ c ∈ intText n, c = '-' ∨ c.isDigit = true := by
  intro c member
  cases n with
  | ofNat n => exact .inr (Nat.isDigit_of_mem_toDigits (by decide) (by decide) member)
  | negSucc n =>
      cases List.mem_cons.mp member with
      | inl sign => exact .inl sign
      | inr digit => exact .inr (Nat.isDigit_of_mem_toDigits (by decide) (by decide) digit)

theorem int_text_colon_free (n : Int) : ':' ∉ intText n := by
  intro member
  cases int_text_chars n ':' member with
  | inl sign => exact absurd sign (by decide)
  | inr digit => exact absurd digit (by decide)

theorem int_text_injective (left right : Int) (same : intText left = intText right) : left = right := by
  have unsigned (n m : Nat) : natText n ≠ '-' :: natText m := by
    intro signed
    have member : '-' ∈ Nat.toDigits 10 n := by
      rw [show Nat.toDigits 10 n = natText n from rfl, signed]
      simp
    have digit := Nat.isDigit_of_mem_toDigits (by decide) (by decide) member
    cases digit
  cases left with
  | ofNat n =>
      cases right with
      | ofNat m => rw [nat_text_injective n m same]
      | negSucc m => exact absurd same (unsigned n (m + 1))
  | negSucc n =>
      cases right with
      | ofNat m => exact absurd same.symm (unsigned m (n + 1))
      | negSucc m =>
          have both := nat_text_injective (n + 1) (m + 1) (List.cons.inj same).2
          rw [Nat.succ.inj both]

@[simp] theorem join_single (separator part : Str) : join separator [part] = part := by
  simp [join, List.intercalate]

@[simp] theorem join_cons (separator first second : Str) (rest : List Str) :
    join separator (first :: second :: rest) = first ++ separator ++ join separator (second :: rest) := by
  simp [join, List.intercalate]

theorem mem_join (separator : Str) (c : Char) (parts : List Str) (member : c ∈ join separator parts) :
    c ∈ separator ∨ ∃ part ∈ parts, c ∈ part := by
  induction parts with
  | nil => simp [join, List.intercalate] at member
  | cons first rest ih =>
      cases rest with
      | nil => exact .inr ⟨first, by simp, by simpa using member⟩
      | cons second rest =>
          rw [join_cons, List.mem_append, List.mem_append] at member
          rcases member with (inFirst | inSeparator) | later
          · exact .inr ⟨first, by simp, inFirst⟩
          · exact .inl inSeparator
          · rcases ih later with inSeparator | ⟨part, found, inside⟩
            · exact .inl inSeparator
            · exact .inr ⟨part, by simp [List.mem_cons.mp found], inside⟩

theorem separator_mem_join (separator first second : Str) (rest : List Str) :
    ∀ c ∈ separator, c ∈ join separator (first :: second :: rest) := by
  intro c member
  simp [member]

theorem mem_part_of_split (separator c : Char) (text : Str) (member : c ∈ text) (different : c ≠ separator) :
    ∃ part ∈ text.splitOn separator, c ∈ part := by
  induction text with
  | nil => simp at member
  | cons head tail ih =>
      rw [List.splitOn_cons_eq_if_modifyHead]
      obtain ⟨first, rest, parts⟩ := List.exists_cons_of_ne_nil (List.splitOn_ne_nil separator tail)
      by_cases cut : head = separator
      · subst head
        have inTail : c ∈ tail := by simpa [different] using member
        obtain ⟨part, found, inPart⟩ := ih inTail
        exact ⟨part, by simp [found], inPart⟩
      · rw [parts] at ih ⊢
        simp only [beq_iff_eq, cut, if_false, List.modifyHead_cons, List.mem_cons]
        rcases List.mem_cons.mp member with rfl | inTail
        · exact ⟨c :: first, .inl rfl, by simp⟩
        · obtain ⟨part, found, inPart⟩ := ih inTail
          rcases List.mem_cons.mp found with rfl | later
          · exact ⟨head :: part, .inl rfl, by simp [inPart]⟩
          · exact ⟨part, .inr later, inPart⟩

theorem split_part_free (separator : Char) (text part : Str) (member : part ∈ text.splitOn separator) :
    separator ∉ part := by
  induction text generalizing part with
  | nil =>
      rw [List.splitOn_nil, List.mem_singleton] at member
      rw [member]
      exact List.not_mem_nil
  | cons head tail ih =>
      rw [List.splitOn_cons_eq_if_modifyHead] at member
      obtain ⟨first, rest, parts⟩ := List.exists_cons_of_ne_nil (List.splitOn_ne_nil separator tail)
      by_cases cut : head = separator
      · rw [if_pos (by simpa using cut), List.mem_cons] at member
        rcases member with rfl | later
        · exact List.not_mem_nil
        · exact ih part later
      · rw [if_neg (by simpa using cut), parts, List.modifyHead_cons, List.mem_cons] at member
        rw [parts] at ih
        rcases member with rfl | later
        · simp [Ne.symm cut, ih first (by simp)]
        · exact ih part (by simp [later])

theorem split_join_map {α : Type} (separator : Char) (write : α → Str) (items : List α) (nonempty : items ≠ [])
    (free : ∀ item, separator ∉ write item) :
    (join [separator] (items.map write)).splitOn separator = items.map write := by
  apply List.splitOn_intercalate
  · intro part member
    obtain ⟨item, _, written⟩ := List.mem_map.mp member
    rw [← written]
    exact free item
  · simpa using nonempty

def Blank (text : Str) : Prop := ∀ c ∈ text, isSpace c = true

theorem rdrop_append_blank (text blank : Str) (spaces : Blank blank) :
    (text ++ blank).rdropWhile isSpace = text.rdropWhile isSpace := by
  have turned : ∀ c ∈ blank.reverse, isSpace c = true := fun c member => spaces c (List.mem_reverse.mp member)
  rw [List.rdropWhile, List.rdropWhile, List.reverse_append, List.dropWhile_append_of_pos turned]

theorem strip_eq_nil (text : Str) : strip text = [] ↔ Blank text := by
  rw [strip, List.rdropWhile_eq_nil_iff]
  constructor
  · intro stripped
    have whole := List.takeWhile_append_dropWhile (p := isSpace) (l := text)
    intro c member
    rw [← whole, List.mem_append] at member
    cases member with
    | inl front => exact List.mem_takeWhile_imp front
    | inr back => exact stripped c back
  · intro blank c member
    exact blank c ((List.dropWhile_sublist isSpace).mem member)

theorem strip_surrounded (before text after : Str) (left : Blank before) (right : Blank after) :
    strip (before ++ text ++ after) = strip text := by
  rw [strip, List.append_assoc, List.dropWhile_append_of_pos left]
  by_cases blank : Blank text
  · have all : ∀ c ∈ text ++ after, isSpace c = true := List.forall_mem_append.mpr ⟨blank, right⟩
    rw [List.dropWhile_eq_nil_iff.mpr all, (strip_eq_nil text).mpr blank, List.rdropWhile_nil]
  · have stops : text.dropWhile isSpace ≠ [] := fun empty => blank (List.dropWhile_eq_nil_iff.mp empty)
    rw [List.dropWhile_append, if_neg (by simpa using stops), rdrop_append_blank _ _ right, strip]

theorem mem_of_strip (text : Str) (c : Char) (member : c ∈ strip text) : c ∈ text :=
  (List.dropWhile_sublist isSpace).mem ((List.rdropWhile_prefix isSpace _).sublist.mem member)

theorem strip_strip (text : Str) : strip (strip text) = strip text := by
  obtain ⟨tail, split⟩ := List.rdropWhile_prefix isSpace (text.dropWhile isSpace)
  have spaces : Blank tail := by
    have own := List.rdropWhile_append_rtakeWhile (p := isSpace) (l := text.dropWhile isSpace)
    have same : tail = (text.dropWhile isSpace).rtakeWhile isSpace := List.append_cancel_left (split.trans own.symm)
    intro c member
    exact List.mem_rtakeWhile_imp (same ▸ member)
  have settled : strip (text.dropWhile isSpace) = strip text := by
    rw [strip, List.dropWhile_idempotent, strip]
  have joined := strip_surrounded [] (strip text) tail (fun c member => absurd member List.not_mem_nil) spaces
  have whole : [] ++ strip text ++ tail = text.dropWhile isSpace := split
  rw [← joined, whole, settled]

end Text

end Chassis
