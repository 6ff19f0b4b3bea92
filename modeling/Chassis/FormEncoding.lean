import Chassis.JsonRender
import Chassis.Urls

set_option autoImplicit false

namespace Chassis.FormEncoding

open Text
open JsonRender (PyStr RenderError points encode encode_points)
open Urls (splitFirst escapeAt unquoteToBytes NoEscapes split_first_some)

def replacement : Char := Char.ofNat 0xFFFD

def isTail (byte : UInt8) : Bool := 0x80 ≤ byte ∧ byte ≤ 0xBF

-- For the first byte of a longer sequence, the bounds of its second byte and
-- how many further bytes the sequence has.
def secondBounds (lead : UInt8) : Option (UInt8 × UInt8 × Nat) :=
  if 0xC2 ≤ lead ∧ lead ≤ 0xDF then some (0x80, 0xBF, 0)
  else if lead = 0xE0 then some (0xA0, 0xBF, 1)
  else if lead = 0xED then some (0x80, 0x9F, 1)
  else if 0xE1 ≤ lead ∧ lead ≤ 0xEF then some (0x80, 0xBF, 1)
  else if lead = 0xF0 then some (0x90, 0xBF, 2)
  else if 0xF1 ≤ lead ∧ lead ≤ 0xF3 then some (0x80, 0xBF, 2)
  else if lead = 0xF4 then some (0x80, 0x8F, 2)
  else none

-- Where no character starts, the longest beginning of one is replaced as a
-- whole, a single byte when there is none.
def malformedLength (lead : UInt8) (rest : Bytes) : Nat :=
  match secondBounds lead, rest with
  | some (low, high, more), second :: others =>
      if low ≤ second ∧ second ≤ high then 2 + ((others.take more).takeWhile isTail).length else 1
  | _, _ => 1

theorem malformed_length_pos (lead : UInt8) (rest : Bytes) : 0 < malformedLength lead rest := by
  unfold malformedLength
  split
  · split <;> omega
  · decide

-- bytes.decode("utf-8", errors="replace"). A Char is never a surrogate, so the
-- text can always be encoded again.
def decodeReplace (raw : Bytes) : Str :=
  match raw with
  | [] => []
  | lead :: rest =>
      match (lead :: rest).toByteArray.utf8DecodeChar? 0 with
      | some c => c :: decodeReplace ((lead :: rest).drop c.utf8Size)
      | none => replacement :: decodeReplace ((lead :: rest).drop (malformedLength lead rest))
termination_by raw.length
decreasing_by
  · have positive := c.utf8Size_pos
    simp only [List.length_drop, List.length_cons]
    omega
  · have positive := malformed_length_pos lead rest
    simp only [List.length_drop, List.length_cons]
    omega

def isAscii (c : Char) : Bool := c.toNat < 128

-- The text outside the ASCII runs is kept, each run is decoded on its own.
def unquoteRuns (text : Str) : Str :=
  match text with
  | [] => []
  | c :: rest =>
      if isAscii c then
        decodeReplace (unquoteToBytes (c :: rest.takeWhile isAscii)) ++ unquoteRuns (rest.dropWhile isAscii)
      else c :: unquoteRuns rest
termination_by text.length
decreasing_by
  · have shorter := (List.dropWhile_sublist (l := rest) isAscii).length_le
    simp only [List.length_cons]
    omega
  · simp

-- urllib.parse.unquote with errors="replace"
def unquote (text : Str) : Str := if '%' ∈ text then unquoteRuns text else text

def plusToSpace (text : Str) : Str := text.map (fun c => if c = '+' then ' ' else c)

def unquotePlus (text : Str) : Str := unquote (plusToSpace text)

def parsePair (nameValue : Str) : Str × Str :=
  match splitFirst '=' nameValue with
  | none => (unquotePlus nameValue, unquotePlus [])
  | some (name, value) => (unquotePlus name, unquotePlus value)

-- urllib.parse.parse_qsl with keep_blank_values
def parseQsl (text : Str) : List (Str × Str) := ((text.splitOn '&').filter (fun part => part ≠ [])).map parsePair

def isAlwaysSafe (byte : UInt8) : Bool :=
  (0x41 ≤ byte ∧ byte ≤ 0x5A) || (0x61 ≤ byte ∧ byte ≤ 0x7A) || (0x30 ≤ byte ∧ byte ≤ 0x39) ||
    byte = 0x5F || byte = 0x2E || byte = 0x2D || byte = 0x7E

def upperHex (digit : Nat) : Char := digit.digitChar.toUpper

-- A space is left to the end of quote_plus, which writes a plus sign for it.
def quoteByte (byte : UInt8) : Str :=
  if isAlwaysSafe byte || byte = 0x20 then [Char.ofNat byte.toNat]
  else ['%', upperHex (byte.toNat / 16), upperHex (byte.toNat % 16)]

def quoteKeepingSpace (text : Str) : Str := (utf8 text).flatMap quoteByte

def quotePlus (text : Str) : Str := (quoteKeepingSpace text).map (fun c => if c = ' ' then '+' else c)

def encodePair (pair : Str × Str) : Str := quotePlus pair.1 ++ '=' :: quotePlus pair.2

-- urllib.parse.urlencode of a list of pairs of text
def urlencode (pairs : List (Str × Str)) : Str := join ['&'] (pairs.map encodePair)

-- The same of any text of the interpreter: quote encodes strictly.
def quotePlusText (text : PyStr) : Except RenderError Str :=
  (encode text).map (fun raw => (raw.flatMap quoteByte).map (fun c => if c = ' ' then '+' else c))

def encodePairText (pair : PyStr × PyStr) : Except RenderError Str := do
  let name ← quotePlusText pair.1
  let value ← quotePlusText pair.2
  return name ++ '=' :: value

def urlencodeText (pairs : List (PyStr × PyStr)) : Except RenderError Str :=
  (pairs.mapM encodePairText).map (join ['&'])

theorem quote_plus_points (text : Str) : quotePlusText (points text) = .ok (quotePlus text) := by
  rw [quotePlusText, encode_points]
  rfl

theorem encode_pair_points (pair : Str × Str) : encodePairText (points pair.1, points pair.2) = .ok (encodePair pair) := by
  rw [encodePairText, quote_plus_points, quote_plus_points]
  rfl

theorem urlencode_points (pairs : List (Str × Str)) :
    urlencodeText (pairs.map (fun pair => (points pair.1, points pair.2))) = .ok (urlencode pairs) := by
  have encoded : (pairs.map (fun pair => (points pair.1, points pair.2))).mapM encodePairText =
      .ok (pairs.map encodePair) := by
    induction pairs with
    | nil => rfl
    | cons pair rest ih =>
        rw [List.map_cons, List.mapM_cons, encode_pair_points, ih]
        rfl
  rw [urlencodeText, encoded]
  rfl

theorem decode_replace_char (c : Char) (rest : Bytes) :
    decodeReplace (String.utf8EncodeChar c ++ rest) = c :: decodeReplace rest := by
  have decoded : (String.utf8EncodeChar c ++ rest).toByteArray.utf8DecodeChar? 0 = some c := by
    rw [List.toByteArray_append]
    exact ByteArray.utf8DecodeChar?_utf8EncodeChar_append
  have dropped : (String.utf8EncodeChar c ++ rest).drop c.utf8Size = rest :=
    List.drop_left' (String.length_utf8EncodeChar c)
  cases bytes : String.utf8EncodeChar c ++ rest with
  | nil =>
      rw [bytes] at decoded
      cases decoded
  | cons lead others =>
      rw [bytes] at decoded dropped
      rw [decodeReplace, decoded]
      dsimp only
      rw [dropped]

theorem decode_replace_utf8 (text : Str) : decodeReplace (utf8 text) = text := by
  induction text with
  | nil => rw [utf8, List.flatMap_nil, decodeReplace]
  | cons c rest ih =>
      rw [utf8, List.flatMap_cons, decode_replace_char]
      exact congrArg (List.cons c) ih

theorem utf8_injective (left right : Str) (same : utf8 left = utf8 right) : left = right := by
  have decoded := congrArg decodeReplace same
  rwa [decode_replace_utf8, decode_replace_utf8] at decoded

theorem unquote_runs_ascii (text : Str) (ascii : ∀ c ∈ text, isAscii c = true) :
    unquoteRuns text = decodeReplace (unquoteToBytes text) := by
  cases text with
  | nil => rw [unquoteRuns, unquoteToBytes, decodeReplace]
  | cons c rest =>
      have others : ∀ other ∈ rest, isAscii other = true := fun other member => ascii other (by simp [member])
      rw [unquoteRuns, if_pos (ascii c (by simp)), List.takeWhile_eq_self_iff.mpr others,
        List.dropWhile_eq_nil_iff.mpr others, unquoteRuns, List.append_nil]

theorem no_percent_no_escapes (text : Str) (plain : '%' ∉ text) : NoEscapes text := by
  intro before after split
  unfold escapeAt
  split
  next high low others same =>
    refine absurd ?_ plain
    rw [split]
    simp
  next => rfl

theorem unquote_of_bytes (written text : Str) (ascii : ∀ c ∈ written, isAscii c = true)
    (bytes : unquoteToBytes written = utf8 text) : unquote written = text := by
  unfold unquote
  by_cases percent : '%' ∈ written
  · rw [if_pos percent, unquote_runs_ascii written ascii, bytes, decode_replace_utf8]
  · have plain := (Urls.unquote_bytes_size written).1 (no_percent_no_escapes written percent)
    rw [if_neg percent]
    exact utf8_injective written text (plain.symm.trans bytes)

theorem ascii_encoded (n : Nat) (small : n < 128) : String.utf8EncodeChar (Char.ofNat n) = [UInt8.ofNat n] := by
  revert n
  decide +kernel

theorem upper_hex_value (digit : Nat) (bound : digit < 16) : Digits.hexValue (upperHex digit) = some digit := by
  revert digit
  decide

def isKept (c : Char) : Bool := isAscii c ∧ c ≠ '+' ∧ c ≠ '&' ∧ c ≠ '='

theorem upper_hex_kept (digit : Nat) (bound : digit < 16) : isKept (upperHex digit) = true := by
  revert digit
  decide

theorem safe_kept (n : Nat) (small : n < 128) (safe : isAlwaysSafe (UInt8.ofNat n) = true) :
    isKept (Char.ofNat n) = true ∧ Char.ofNat n ≠ '%' := by
  revert n
  decide +kernel

theorem safe_small (byte : UInt8) (safe : isAlwaysSafe byte = true) : byte.toNat < 128 := by
  simp only [isAlwaysSafe, Bool.or_eq_true, decide_eq_true_eq, UInt8.le_iff_toNat_le] at safe
  rcases safe with ((((((range | range) | range) | same) | same) | same) | same)
  · exact Nat.lt_of_le_of_lt range.2 (by decide)
  · exact Nat.lt_of_le_of_lt range.2 (by decide)
  · exact Nat.lt_of_le_of_lt range.2 (by decide)
  · rw [same]; decide
  · rw [same]; decide
  · rw [same]; decide
  · rw [same]; decide

theorem escape_at_other (c : Char) (rest : Str) (other : c ≠ '%') : escapeAt (c :: rest) = none := by
  unfold escapeAt
  split
  next high low after same => exact absurd (List.cons.inj same).1 other
  next => rfl

theorem quote_byte_cases (byte : UInt8) :
    (∃ c, quoteByte byte = [c] ∧ utf8 [c] = [byte] ∧ isKept c = true ∧ c ≠ '%') ∨
      quoteByte byte = ['%', upperHex (byte.toNat / 16), upperHex (byte.toNat % 16)] := by
  unfold quoteByte
  cases safe : isAlwaysSafe byte with
  | true =>
      have small := safe_small byte safe
      have own : UInt8.ofNat byte.toNat = byte := by simp
      have kept := safe_kept byte.toNat small (by rw [own]; exact safe)
      refine .inl ⟨Char.ofNat byte.toNat, by simp, ?_, kept⟩
      rw [utf8, List.flatMap_singleton, ascii_encoded byte.toNat small, own]
  | false =>
      by_cases space : byte = 0x20
      · subst space
        exact .inl ⟨' ', by decide, by decide, by decide, by decide⟩
      · exact .inr (by simp [space])

theorem unquote_quoted_byte (byte : UInt8) (rest : Str) :
    unquoteToBytes (quoteByte byte ++ rest) = byte :: unquoteToBytes rest := by
  cases quote_byte_cases byte with
  | inl own =>
      obtain ⟨c, written, bytes, _, other⟩ := own
      rw [written, List.singleton_append, unquoteToBytes, escape_at_other c rest other]
      dsimp only
      rw [bytes, List.singleton_append]
  | inr escape =>
      have bound := byte.toNat_lt
      have high := upper_hex_value (byte.toNat / 16) (by omega)
      have low := upper_hex_value (byte.toNat % 16) (by omega)
      have read : Digits.hexFold 0 [upperHex (byte.toNat / 16), upperHex (byte.toNat % 16)] = some byte.toNat := by
        simp only [Digits.hexFold, high, low, Option.bind_some, Nat.zero_mul, Nat.zero_add, Nat.div_add_mod']
      have found : escapeAt ('%' :: upperHex (byte.toNat / 16) :: upperHex (byte.toNat % 16) :: rest) = some byte := by
        simp [escapeAt, read]
      rw [escape, List.cons_append, List.cons_append, List.cons_append, List.nil_append, unquoteToBytes, found]
      rfl

theorem quoted_byte_kept (byte : UInt8) : ∀ c ∈ quoteByte byte, isKept c = true := by
  cases quote_byte_cases byte with
  | inl own =>
      obtain ⟨c, written, _, kept, _⟩ := own
      simp [written, kept]
  | inr escape =>
      have bound := byte.toNat_lt
      have percent : isKept '%' = true := rfl
      have high := upper_hex_kept (byte.toNat / 16) (by omega)
      have low := upper_hex_kept (byte.toNat % 16) (by omega)
      simp [escape, percent, high, low]

theorem quoted_kept (text : Str) :
    ∀ c ∈ quoteKeepingSpace text, isAscii c = true ∧ c ≠ '+' ∧ c ≠ '&' ∧ c ≠ '=' := by
  intro c member
  obtain ⟨byte, _, written⟩ := List.mem_flatMap.mp member
  exact of_decide_eq_true (quoted_byte_kept byte c written)

theorem unquote_quoted_bytes (bytes : Bytes) : unquoteToBytes (bytes.flatMap quoteByte) = bytes := by
  induction bytes with
  | nil => rw [List.flatMap_nil, unquoteToBytes]
  | cons byte rest ih => rw [List.flatMap_cons, unquote_quoted_byte, ih]

theorem plus_to_space_quoted (text : Str) : plusToSpace (quotePlus text) = quoteKeepingSpace text := by
  rw [plusToSpace, quotePlus, List.map_map]
  refine (List.map_congr_left ?_).trans (List.map_id _)
  intro c member
  have plus := (quoted_kept text c member).2.1
  by_cases space : c = ' '
  · simp [space]
  · simp [space, plus]

theorem unquote_quote_plus (text : Str) : unquotePlus (quotePlus text) = text := by
  rw [unquotePlus, plus_to_space_quoted]
  exact unquote_of_bytes _ text (fun c member => (quoted_kept text c member).1) (unquote_quoted_bytes (utf8 text))

theorem quote_plus_separators (text : Str) : '&' ∉ quotePlus text ∧ '=' ∉ quotePlus text := by
  have each : ∀ c ∈ quotePlus text, c ≠ '&' ∧ c ≠ '=' := by
    intro c member
    obtain ⟨own, inside, same⟩ := List.mem_map.mp member
    have kept := (quoted_kept text own inside).2.2
    by_cases space : own = ' '
    · rw [if_pos space] at same
      rw [← same]
      decide
    · rw [if_neg space] at same
      rw [← same]
      exact kept
  exact ⟨fun member => (each '&' member).1 rfl, fun member => (each '=' member).2 rfl⟩

theorem parse_encoded_pair (pair : Str × Str) : parsePair (encodePair pair) = pair := by
  have cut : splitFirst '=' (encodePair pair) = some (quotePlus pair.1, quotePlus pair.2) :=
    (split_first_some '=' _ _ _).mpr ⟨rfl, (quote_plus_separators pair.1).2⟩
  rw [parsePair, cut]
  dsimp only
  rw [unquote_quote_plus, unquote_quote_plus]

theorem encoded_pair_whole (pair : Str × Str) : encodePair pair ≠ [] ∧ '&' ∉ encodePair pair := by
  have name := (quote_plus_separators pair.1).1
  have value := (quote_plus_separators pair.2).1
  exact ⟨by simp [encodePair], by simp [encodePair, name, value]⟩

theorem parse_urlencode (pairs : List (Str × Str)) : parseQsl (urlencode pairs) = pairs := by
  cases pairs with
  | nil => rfl
  | cons first rest =>
      have parts := split_join_map '&' encodePair (first :: rest) (List.cons_ne_nil _ _)
        (fun pair => (encoded_pair_whole pair).2)
      have nonempty : ((first :: rest).map encodePair).filter (fun part => part ≠ []) = (first :: rest).map encodePair := by
        apply List.filter_eq_self.mpr
        intro part member
        obtain ⟨pair, _, written⟩ := List.mem_map.mp member
        rw [← written]
        exact decide_eq_true (encoded_pair_whole pair).1
      rw [parseQsl, urlencode, parts, nonempty, List.map_map]
      exact (List.map_congr_left (fun pair _ => parse_encoded_pair pair)).trans (List.map_id _)

end Chassis.FormEncoding
