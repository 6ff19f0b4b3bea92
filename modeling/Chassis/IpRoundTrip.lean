import Chassis.IpAddress
import Mathlib.Tactic.IntervalCases

set_option autoImplicit false

namespace Chassis.Ip

open Digits Text

theorem map_parse_render {α β : Type} (parse : β → Option α) (render : α → β) (values : List α)
    (inverse : ∀ value ∈ values, parse (render value) = some value) :
    (values.map render).mapM parse = some values := by
  induction values with
  | nil => rfl
  | cons value tail ih =>
      have head := inverse value (by simp)
      have rest := ih (fun v member => inverse v (by simp [member]))
      simp [List.mapM_cons, head, rest]

theorem map_parse_fails {α β : Type} (parse : β → Option α) (parts : List β) (part : β) (member : part ∈ parts)
    (failed : parse part = none) : parts.mapM parse = none := by
  induction parts with
  | nil => simp at member
  | cons head tail ih =>
      rcases List.mem_cons.mp member with rfl | later
      · simp [List.mapM_cons, failed]
      · cases parse head <;> simp [List.mapM_cons, ih later]

theorem parse_octet_text (n : Nat) (bound : n < 256) : parseOctet (natText n) = some n := by
  revert n
  decide +kernel

theorem digit_avoids (n : Nat) (c : Char) (other : c.isDigit = false) : c ∉ natText n := by
  intro member
  simp [Nat.isDigit_of_mem_toDigits (by decide) (by decide) member] at other

theorem hex_avoids (n : Nat) (c : Char) (other : hexValue c = none) : c ∉ hexText n := by
  intro member
  have digit := hex_text_digits n c member
  simp [other] at digit

theorem octets_split (values : List Nat) (nonempty : values ≠ []) :
    (join ['.'] (values.map natText)).splitOn '.' = values.map natText := by
  apply List.splitOn_intercalate
  · intro part member
    obtain ⟨value, _, rfl⟩ := List.mem_map.mp member
    exact digit_avoids value '.' (by decide)
  · simpa using nonempty

theorem ipv4_int_text (ip : BitVec 32) : ipv4IntFromString (ipv4Text ip) = some ip.toNat := by
  have length := to_groups_length 256 4 ip.toNat
  have nonempty : toGroups 256 4 ip.toNat ≠ [] := by
    intro empty
    simp [empty] at length
  have octets : ((toGroups 256 4 ip.toNat).map natText).mapM parseOctet = some (toGroups 256 4 ip.toNat) :=
    map_parse_render parseOctet natText _
      (fun value member => parse_octet_text value (to_groups_lt 256 4 ip.toNat (by decide) value member))
  unfold ipv4IntFromString ipv4Text
  rw [octets_split _ nonempty]
  simp only [List.length_map, length, ne_eq, not_true_eq_false, if_false, octets, Option.map_some]
  rw [of_groups_to_groups 256 4 ip.toNat (by simpa using ip.isLt)]

theorem ipv4_text_chars (ip : BitVec 32) : ∀ c ∈ ipv4Text ip, c = '.' ∨ c.isDigit := by
  intro c member
  rcases mem_join ['.'] c _ member with dot | ⟨part, found, inside⟩
  · exact .inl (List.mem_singleton.mp dot)
  · obtain ⟨value, _, rfl⟩ := List.mem_map.mp found
    exact .inr (Nat.isDigit_of_mem_toDigits (by decide) (by decide) inside)

theorem ipv4_text_avoids (ip : BitVec 32) (c : Char) (notDot : c ≠ '.') (notDigit : c.isDigit = false) :
    c ∉ ipv4Text ip := by
  intro member
  rcases ipv4_text_chars ip c member with dot | digit
  · exact notDot dot
  · simp [notDigit] at digit

theorem ipv4_address_text (ip : BitVec 32) : ipv4Address (ipv4Text ip) = some ip := by
  have noSlash := ipv4_text_avoids ip '/' (by decide) (by decide)
  simp [ipv4Address, noSlash, ipv4_int_text]

theorem ipv4_address_colon (text : Str) (colon : ':' ∈ text) : ipv4Address text = none := by
  obtain ⟨part, found, inside⟩ := mem_part_of_split '.' ':' text colon (by decide)
  have notDigits : part.all Char.isDigit = false := by
    rw [List.all_eq_false]
    exact ⟨':', inside, by decide⟩
  have failed : parseOctet part = none := by
    simp [parseOctet, List.ne_nil_of_mem inside, notDigits]
  simp [ipv4Address, ipv4IntFromString, map_parse_fails parseOctet _ part found failed]

-- What the scan has established about the hextets it has seen: the zeros it is
-- counting end the list, and the best run it remembers lies inside it.
structure Scanned (seen : List Str) (run : ZeroRun) : Prop where
  current : ∃ before, seen = before ++ List.replicate run.len ['0'] ∧
    run.start = if run.len = 0 then none else some before.length
  best : run.bestLen = 0 ∨ ∃ before after, seen = before ++ List.replicate run.bestLen ['0'] ++ after ∧
    run.bestStart = some before.length

theorem scan_zero_scanned (seen : List Str) (run : ZeroRun) (hextet : Str) (scanned : Scanned seen run) :
    Scanned (seen ++ [hextet]) (scanZero run seen.length hextet) := by
  obtain ⟨⟨before, seenEq, startEq⟩, best⟩ := scanned
  have bestKept : run.bestLen = 0 ∨ ∃ before after,
      seen ++ [hextet] = before ++ List.replicate run.bestLen ['0'] ++ after ∧ run.bestStart = some before.length := by
    rcases best with none | ⟨left, right, split, start⟩
    · exact .inl none
    · exact .inr ⟨left, right ++ [hextet], by rw [split]; simp, start⟩
  unfold scanZero
  by_cases zero : hextet = ['0']
  · subst zero
    have extended : seen ++ [['0']] = before ++ List.replicate (run.len + 1) ['0'] := by
      rw [seenEq, List.replicate_succ', List.append_assoc]
    have started : run.start.getD seen.length = before.length := by
      by_cases empty : run.len = 0
      · simp [startEq, empty, seenEq]
      · simp [startEq, empty]
    by_cases better : run.bestLen < run.len + 1
    · rw [if_pos rfl]
      simp only [if_pos better, started]
      exact ⟨⟨before, extended, by simp⟩, .inr ⟨before, [], by simpa using extended, rfl⟩⟩
    · rw [if_pos rfl]
      simp only [if_neg better, started]
      exact ⟨⟨before, extended, by simp⟩, bestKept⟩
  · rw [if_neg zero]
    exact ⟨⟨seen ++ [hextet], by simp, by simp⟩, bestKept⟩

theorem scan_zeros_scanned (rest seen : List Str) (run : ZeroRun) (scanned : Scanned seen run) :
    Scanned (seen ++ rest) (scanZeros run seen.length rest) := by
  induction rest generalizing seen run with
  | nil => simpa [scanZeros] using scanned
  | cons hextet tail ih =>
      have next := ih (seen ++ [hextet]) _ (scan_zero_scanned seen run hextet scanned)
      simpa [scanZeros] using next

def edge (part : List Str) : List Str := if part = [] then [[]] else []

theorem compress_hextets_shape (hextets : List Str) :
    compressHextets hextets = hextets ∨ ∃ before count after,
      hextets = before ++ List.replicate count ['0'] ++ after ∧ 1 < count ∧
      compressHextets hextets = edge before ++ before ++ [[]] ++ after ++ edge after := by
  have scanned : Scanned hextets (scanZeros {} 0 hextets) :=
    scan_zeros_scanned hextets [] {} ⟨⟨[], rfl, rfl⟩, .inl rfl⟩
  unfold compressHextets
  generalize scanZeros {} 0 hextets = run at scanned
  by_cases long : 1 < run.bestLen
  · obtain none | ⟨before, after, split, start⟩ := scanned.best
    · omega
    · refine .inr ⟨before, run.bestLen, after, split, long, ?_⟩
      have beginning : before.length = 0 ↔ before = [] := List.length_eq_zero_iff
      have ending : before.length + run.bestLen = hextets.length ↔ after = [] := by
        rw [split, ← List.length_eq_zero_iff]
        simp
      simp only [if_pos long, start, Option.getD_some, ending, beginning, edge]
      by_cases atEnd : after = []
      · subst atEnd
        by_cases atStart : before = [] <;> simp [split, atStart, List.drop_append]
      · by_cases atStart : before = [] <;> simp [split, atStart, atEnd, List.drop_append]
  · exact .inl (by simp [long])

theorem parse_hextet_text (n : Nat) (bound : n < 65536) : parseHextet (hexText n) = some n := by
  have digits : (hexText n).all (fun c => (hexValue c).isSome) = true :=
    List.all_eq_true.mpr (hex_text_digits n)
  have short : ¬ 4 < (hexText n).length := Nat.not_lt.mpr (hex_text_length n bound)
  simp [parseHextet, digits, short, hex_number_text]

theorem fold_hextets_text (acc : Nat) (values : List Nat) (bounds : ∀ value ∈ values, value < 65536) :
    foldHextets acc (values.map hexText) = some (ofGroups 65536 acc values) := by
  have parsed := map_parse_render parseHextet hexText values
    (fun value member => parse_hextet_text value (bounds value member))
  simp [foldHextets, parsed]

theorem find_skip_none (index : Nat) (parts : List Str) (found : Option Nat) (nonempty : ∀ part ∈ parts, part ≠ []) :
    findSkip index parts found = some found := by
  induction parts generalizing index with
  | nil => rfl
  | cons part rest ih =>
      simp only [findSkip, if_neg (nonempty part (by simp))]
      exact ih (index + 1) (fun p member => nonempty p (by simp [member]))

theorem find_skip_at (index : Nat) (before after : List Str) (beforeFull : ∀ part ∈ before, part ≠ [])
    (afterFull : ∀ part ∈ after, part ≠ []) :
    findSkip index (before ++ [] :: after) none = some (some (index + before.length)) := by
  induction before generalizing index with
  | nil => simpa [findSkip] using find_skip_none (index + 1) after (some index) afterFull
  | cons part rest ih =>
      rw [List.cons_append, findSkip, if_neg (beforeFull part (by simp)),
        ih (index + 1) (fun p member => beforeFull p (by simp [member]))]
      simp [Nat.add_comm, Nat.add_left_comm]

theorem hex_text_nonempty (n : Nat) : hexText n ≠ [] := by
  simp [hexText]

theorem hex_parts_full (values : List Nat) : ∀ part ∈ values.map hexText, part ≠ [] := by
  intro part member
  obtain ⟨value, _, rfl⟩ := List.mem_map.mp member
  exact hex_text_nonempty value

theorem whole_parts_parse (values : List Nat) (length : values.length = 8) (bounds : ∀ value ∈ values, value < 65536) :
    ipv6IntFromParts (values.map hexText) = some (ofGroups 65536 0 values) := by
  have full := hex_parts_full values
  have interior : ∀ part ∈ ((values.map hexText).drop 1).dropLast, part ≠ [] := fun part member =>
    full part (List.mem_of_mem_drop (List.dropLast_subset _ member))
  have first : (values.map hexText).head? ≠ some [] := fun eq => full [] (List.mem_of_mem_head? eq) rfl
  have last : (values.map hexText).getLast? ≠ some [] := fun eq => full [] (List.mem_of_getLast? eq) rfl
  have counts : wholeCounts (values.map hexText) = some (8, 0, 0) := by
    simp only [wholeCounts, List.length_map, length, ne_eq, not_true_eq_false, if_false, if_neg first, if_neg last]
  have take : (values.map hexText).take 8 = values.map hexText := List.take_of_length_le (by simp [length])
  have drop : (values.map hexText).drop 8 = [] := List.drop_of_length_le (by simp [length])
  unfold ipv6IntFromParts
  rw [if_neg (by simp [length]), find_skip_none 1 _ none interior]
  simp only [Option.bind_some, counts, take, fold_hextets_text 0 values bounds, List.length_map, length,
    Nat.sub_zero, drop]
  simp [foldHextets, ofGroups]

def headParts (values : List Nat) : List Str := edge (values.map hexText) ++ values.map hexText
def tailParts (values : List Nat) : List Str := values.map hexText ++ edge (values.map hexText)
def shortenedParts (before after : List Nat) : List Str := headParts before ++ [] :: tailParts after

theorem head_parts_nil (values : List Nat) : (headParts values).head? = some [] ↔ values = [] := by
  cases values with
  | nil => simp [headParts, edge]
  | cons value rest => simp [headParts, edge, hex_text_nonempty]

theorem tail_parts_nil (values : List Nat) : (tailParts values).getLast? = some [] ↔ values = [] := by
  rcases List.eq_nil_or_concat values with rfl | ⟨front, value, rfl⟩
  · simp [tailParts, edge]
  · simp [tailParts, edge, hex_text_nonempty]

theorem head_parts_length (values : List Nat) :
    (headParts values).length = if values = [] then 1 else values.length := by
  cases values <;> simp [headParts, edge]

theorem tail_parts_length (values : List Nat) :
    (tailParts values).length = if values = [] then 1 else values.length := by
  cases values <;> simp [tailParts, edge]

theorem shortened_head (before after : List Nat) : (shortenedParts before after).head? = some [] ↔ before = [] := by
  rw [← head_parts_nil before]
  have nonempty : headParts before ≠ [] := by cases before <;> simp [headParts, edge]
  obtain ⟨first, rest, parts⟩ := List.exists_cons_of_ne_nil nonempty
  simp [shortenedParts, parts]

theorem shortened_last (before after : List Nat) : (shortenedParts before after).getLast? = some [] ↔ after = [] := by
  rw [← tail_parts_nil after]
  have nonempty : tailParts after ≠ [] := by cases after <;> simp [tailParts, edge]
  obtain ⟨front, last, parts⟩ := (List.eq_nil_or_concat (tailParts after)).resolve_left nonempty
  have shape : shortenedParts before after = (headParts before ++ [] :: front) ++ [last] := by
    simp [shortenedParts, parts]
  rw [shape, parts, List.concat_eq_append, List.getLast?_concat, List.getLast?_concat]

theorem shortened_length (before after : List Nat) :
    (shortenedParts before after).length = (headParts before).length + 1 + (tailParts after).length := by
  simp [shortenedParts]
  omega

theorem skip_counts_shortened (before after : List Nat) (room : before.length + after.length ≤ 7) :
    skipCounts (shortenedParts before after) (headParts before).length =
      some (before.length, 8 - (before.length + after.length), after.length) := by
  have enough : ¬ 8 < before.length + after.length + 1 := by omega
  have high : (if before = [] then (headParts before).length - 1 else (headParts before).length) = before.length := by
    rw [head_parts_length]
    split <;> simp_all
  have low : (if after = [] then (tailParts after).length - 1 else (tailParts after).length) = after.length := by
    rw [tail_parts_length]
    split <;> simp_all
  have right : (shortenedParts before after).length - (headParts before).length - 1 = (tailParts after).length := by
    rw [shortened_length]
    omega
  simp only [skipCounts, shortened_head, shortened_last, right, high, low]
  rw [if_neg (by simp +contextual), if_neg (by simp +contextual), if_neg enough]

theorem shortened_interior (before after : List Nat) :
    findSkip 1 ((shortenedParts before after).drop 1).dropLast none = some (some (headParts before).length) := by
  have headFull : ∀ part ∈ (headParts before).drop 1, part ≠ [] := by
    intro part member
    cases before with
    | nil => simp [headParts, edge] at member
    | cons value rest => exact hex_parts_full rest part (by simpa [headParts, edge] using member)
  have tailFull : ∀ part ∈ (tailParts after).dropLast, part ≠ [] := by
    intro part member
    cases after with
    | nil => simp [tailParts, edge] at member
    | cons value rest =>
        have shape : tailParts (value :: rest) = (value :: rest).map hexText := by simp [tailParts, edge]
        exact hex_parts_full (value :: rest) part (List.dropLast_subset _ (shape ▸ member))
  have headNonempty : headParts before ≠ [] := by cases before <;> simp [headParts, edge]
  have tailNonempty : tailParts after ≠ [] := by cases after <;> simp [tailParts, edge]
  have headPositive : 0 < (headParts before).length := List.length_pos_iff.mpr headNonempty
  have cut : ((shortenedParts before after).drop 1).dropLast =
      (headParts before).drop 1 ++ [] :: (tailParts after).dropLast := by
    rw [shortenedParts, List.drop_append_of_le_length headPositive, List.dropLast_append_of_ne_nil (by simp),
      List.dropLast_cons_of_ne_nil tailNonempty]
  rw [cut, find_skip_at 1 _ _ headFull tailFull, List.length_drop]
  congr 2
  omega

theorem shortened_parts_parse (before after : List Nat) (room : before.length + after.length ≤ 6)
    (beforeBounds : ∀ value ∈ before, value < 65536) (afterBounds : ∀ value ∈ after, value < 65536) :
    ipv6IntFromParts (shortenedParts before after) =
      some (ofGroups 65536 0 (before ++ List.replicate (8 - (before.length + after.length)) 0 ++ after)) := by
  have short : ¬ 9 < (shortenedParts before after).length := by
    rw [shortened_length, head_parts_length, tail_parts_length]
    split <;> split <;> simp_all <;> omega
  have takeHigh : (shortenedParts before after).take before.length = before.map hexText := by
    cases before <;> simp [shortenedParts, headParts, edge]
  have dropLow : (shortenedParts before after).drop ((shortenedParts before after).length - after.length) =
      after.map hexText := by
    cases after with
    | nil => simp
    | cons value rest =>
        have shape : shortenedParts before (value :: rest) =
            (headParts before ++ [[]]) ++ (value :: rest).map hexText := by
          simp [shortenedParts, tailParts, edge]
        rw [shape, List.length_append, List.length_map, Nat.add_sub_cancel, List.drop_left]
  unfold ipv6IntFromParts
  rw [if_neg short, shortened_interior]
  simp only [Option.bind_some, skip_counts_shortened before after (by omega), takeHigh, dropLow,
    fold_hextets_text 0 before beforeBounds, fold_hextets_text _ after afterBounds, of_groups_append, of_groups_zeros]

theorem compressed_parts_parse (values : List Nat) (length : values.length = 8)
    (bounds : ∀ value ∈ values, value < 65536) :
    ipv6IntFromParts (compressHextets (values.map hexText)) = some (ofGroups 65536 0 values) := by
  obtain same | ⟨before, count, after, split, long, shape⟩ := compress_hextets_shape (values.map hexText)
  · rw [same, whole_parts_parse values length bounds]
  · have zeroText : List.replicate count ['0'] = (List.replicate count 0).map hexText := by
      rw [List.map_replicate]
      rfl
    rw [List.append_assoc] at split
    obtain ⟨left, rest, rfl, rfl, restEq⟩ := List.map_eq_append_iff.mp split
    obtain ⟨zeros, right, rfl, zerosEq, rfl⟩ := List.map_eq_append_iff.mp restEq
    have injective : Function.Injective hexText := by
      intro a b same
      simpa [hex_number_text] using congrArg hexNumber same
    have zerosAre : zeros = List.replicate count 0 :=
      (List.map_injective_iff.mpr injective) (zerosEq.trans zeroText)
    subst zerosAre
    simp only [List.length_append, List.length_replicate] at length
    have parts : compressHextets ((left ++ (List.replicate count 0 ++ right)).map hexText) = shortenedParts left right := by
      rw [shape]
      simp [shortenedParts, headParts, tailParts]
    have missing : 8 - (left.length + right.length) = count := by omega
    rw [parts, shortened_parts_parse left right (by omega) (fun v member => bounds v (by simp [member]))
      (fun v member => bounds v (by simp [member])), missing, List.append_assoc]

theorem compressed_part_cases (values : List Nat) (part : Str)
    (member : part ∈ compressHextets (values.map hexText)) : part = [] ∨ part ∈ values.map hexText := by
  have edgeEmpty (side : List Str) (inEdge : part ∈ edge side) : part = [] := by
    unfold edge at inEdge
    split at inEdge <;> simp_all
  obtain same | ⟨before, count, after, split, _, shape⟩ := compress_hextets_shape (values.map hexText)
  · exact .inr (same ▸ member)
  · rw [shape] at member
    rw [split]
    simp only [List.mem_append, List.mem_singleton] at member
    rcases member with (((inEdge | kept) | rfl) | kept) | inEdge
    · exact .inl (edgeEmpty _ inEdge)
    · exact .inr (by simp [kept])
    · exact .inl rfl
    · exact .inr (by simp [kept])
    · exact .inl (edgeEmpty _ inEdge)

theorem compressed_parts_short (values : List Nat) (bounds : ∀ value ∈ values, value < 65536) :
    ∀ part ∈ compressHextets (values.map hexText), part.length ≤ 4 := by
  have plain : ∀ part ∈ values.map hexText, part.length ≤ 4 := by
    intro part member
    obtain ⟨value, found, rfl⟩ := List.mem_map.mp member
    exact hex_text_length value (bounds value found)
  intro part member
  rcases compressed_part_cases values part member with rfl | kept
  · simp
  · exact plain part kept

theorem compressed_parts_chars (values : List Nat) :
    ∀ part ∈ compressHextets (values.map hexText), ∀ c ∈ part, (hexValue c).isSome := by
  intro part member c inside
  rcases compressed_part_cases values part member with rfl | kept
  · simp at inside
  · obtain ⟨value, _, rfl⟩ := List.mem_map.mp kept
    exact hex_text_digits value c inside

theorem compressed_parts_length (values : List Nat) (length : values.length = 8) :
    3 ≤ (compressHextets (values.map hexText)).length ∧ (compressHextets (values.map hexText)).length ≤ 9 := by
  obtain same | ⟨before, count, after, split, long, shape⟩ := compress_hextets_shape (values.map hexText)
  · simp [same, length]
  · have total := congrArg List.length split
    simp only [List.length_map, length, List.length_append, List.length_replicate] at total
    rw [shape]
    unfold edge
    rcases before with _ | ⟨_, _⟩ <;> rcases after with _ | ⟨_, _⟩ <;>
      simp only [List.length_nil, List.length_cons] at total <;> simp <;> omega

theorem join_length (separator : Char) (bound : Nat) (parts : List Str) (short : ∀ part ∈ parts, part.length ≤ bound) :
    (join [separator] parts).length ≤ parts.length * (bound + 1) := by
  induction parts with
  | nil => simp [join, List.intercalate]
  | cons first rest ih =>
      have head := short first (by simp)
      cases rest with
      | nil => simpa using Nat.le_succ_of_le head
      | cons second rest =>
          have tail := ih (fun part member => short part (by simp [List.mem_cons.mp member]))
          simp only [join_cons, List.length_append, List.length_cons, List.length_nil] at tail ⊢
          linarith

theorem ipv6_int_of_parts (parts : List Str) (many : 3 ≤ parts.length) (noColon : ∀ part ∈ parts, ':' ∉ part)
    (short : (join [':'] parts).length ≤ 45) :
    ipv6IntFromString (join [':'] parts) = (expandSuffix parts).bind ipv6IntFromParts := by
  have nonempty : parts ≠ [] := by
    rintro rfl
    simp at many
  have split : (join [':'] parts).splitOn ':' = parts := List.splitOn_intercalate ':' noColon nonempty
  have text : join [':'] parts ≠ [] := by
    intro empty
    rw [empty] at split
    simp [← split] at many
  unfold ipv6IntFromString
  rw [if_neg text, if_neg (Nat.not_lt.mpr short)]
  simp only [split]
  rw [if_neg (Nat.not_lt.mpr many)]

theorem ipv6_int_text (ip : Nat) (bound : ip < 2 ^ 128) : ipv6IntFromString (ipv6TextOfInt ip) = some ip := by
  have length := to_groups_length 65536 8 ip
  have bounds := to_groups_lt 65536 8 ip (by decide)
  have value := of_groups_to_groups 65536 8 ip (by simpa using bound)
  unfold ipv6TextOfInt
  generalize toGroups 65536 8 ip = values at length bounds value
  have chars := compressed_parts_chars values
  have count := compressed_parts_length values length
  have short := compressed_parts_short values bounds
  have parsed := compressed_parts_parse values length bounds
  generalize compressHextets (values.map hexText) = parts at chars count short parsed
  have avoid (c : Char) (other : hexValue c = none) : ∀ part ∈ parts, c ∉ part := by
    intro part member inside
    have digit := chars part member c inside
    simp [other] at digit
  have total := join_length ':' 4 parts short
  have suffix : expandSuffix parts = some parts := by
    unfold expandSuffix
    cases last : parts.getLast? with
    | none => rfl
    | some part => simp [avoid '.' (by decide) part (List.mem_of_getLast? last)]
  rw [ipv6_int_of_parts parts count.1 (avoid ':' (by decide)) (by omega), suffix, Option.bind_some, parsed, value]

theorem mapped_prefix_text : ipv6TextOfInt 0xFFFF = join [':'] [[], [], hexText 0xFFFF] := by
  decide

theorem ipv6_int_mapped (ip : BitVec 128) (mapped : ip.toNat / 2 ^ 32 = 0xFFFF) :
    ipv6IntFromString (ipv6TextOfInt 0xFFFF ++ [':'] ++ ipv4Text (ip.setWidth 32)) = some ip.toNat := by
  have low : (ip.setWidth 32).toNat = ip.toNat % 2 ^ 32 := BitVec.toNat_setWidth 32 ip
  have noColon := ipv4_text_avoids (ip.setWidth 32) ':' (by decide) (by decide)
  have dotted := ipv4_address_text (ip.setWidth 32)
  have dot : '.' ∈ ipv4Text (ip.setWidth 32) := by
    have length := to_groups_length 256 4 (ip.setWidth 32).toNat
    unfold ipv4Text
    obtain ⟨a, b, rest, groups⟩ : ∃ a b rest, toGroups 256 4 (ip.setWidth 32).toNat = a :: b :: rest := by
      match toGroups 256 4 (ip.setWidth 32).toNat, length with
      | a :: b :: rest, _ => exact ⟨a, b, rest, rfl⟩
    rw [groups]
    simp
  have octetsShort : (ipv4Text (ip.setWidth 32)).length ≤ 16 := by
    have bounds := to_groups_lt 256 4 (ip.setWidth 32).toNat (by decide)
    have total := join_length '.' 3 ((toGroups 256 4 (ip.setWidth 32).toNat).map natText) (by
      intro part member
      obtain ⟨value, found, rfl⟩ := List.mem_map.mp member
      exact (Nat.length_toDigits_le_iff (by decide) (by decide)).mpr (Nat.lt_trans (bounds value found) (by decide)))
    simpa [ipv4Text, to_groups_length] using total
  generalize ipv4Text (ip.setWidth 32) = suffix at noColon dotted dot octetsShort
  have text : ipv6TextOfInt 0xFFFF ++ [':'] ++ suffix = join [':'] [[], [], hexText 0xFFFF, suffix] := by
    rw [mapped_prefix_text]
    simp
  have short : (join [':'] [[], [], hexText 0xFFFF, suffix]).length ≤ 45 := by
    have four : (hexText 0xFFFF).length = 4 := by decide
    simp [four]
    omega
  have colons : ∀ part ∈ [[], [], hexText 0xFFFF, suffix], ':' ∉ part := by
    have hex := hex_avoids 0xFFFF ':' (by decide)
    simp [hex, noColon]
  have expanded : expandSuffix [[], [], hexText 0xFFFF, suffix] =
      some (shortenedParts [] [0xFFFF, ip.toNat % 2 ^ 32 / 65536 % 65536, ip.toNat % 2 ^ 32 % 65536]) := by
    simp [expandSuffix, dot, dotted, shortenedParts, headParts, tailParts, edge, low]
  have bounds : ∀ value ∈ [0xFFFF, ip.toNat % 2 ^ 32 / 65536 % 65536, ip.toNat % 2 ^ 32 % 65536], value < 65536 := by
    simp only [List.mem_cons, List.not_mem_nil, or_false]
    rintro value (rfl | rfl | rfl) <;> omega
  rw [text, ipv6_int_of_parts _ (by simp) colons short, expanded, Option.bind_some,
    shortened_parts_parse [] _ (by simp) (by simp) bounds]
  simp only [List.length_nil, List.length_cons, ofGroups, List.nil_append, List.replicate, List.cons_append, List.foldl]
  congr 1
  omega

theorem ipv6_text_chars (ip : Nat) : ∀ c ∈ ipv6TextOfInt ip, c = ':' ∨ (hexValue c).isSome := by
  intro c member
  rcases mem_join [':'] c _ member with colon | ⟨part, found, inside⟩
  · exact .inl (List.mem_singleton.mp colon)
  · exact .inr (compressed_parts_chars _ part found c inside)

theorem ipv6_text_colon (ip : Nat) : ':' ∈ ipv6TextOfInt ip := by
  have length := (compressed_parts_length _ (to_groups_length 65536 8 ip)).1
  unfold ipv6TextOfInt
  match compressHextets ((toGroups 65536 8 ip).map hexText), length with
  | first :: second :: rest, _ => exact separator_mem_join [':'] first second rest ':' (by simp)

def ipv6Digits (ip : BitVec 128) : Str := ipv6Text ip none

theorem ipv6_digits_cases (ip : BitVec 128) :
    (ip.toNat / 2 ^ 32 = 0xFFFF ∧ ipv6Digits ip = ipv6TextOfInt 0xFFFF ++ [':'] ++ ipv4Text (ip.setWidth 32)) ∨
      ipv6Digits ip = ipv6TextOfInt ip.toNat := by
  by_cases mapped : ip.toNat / 2 ^ 32 = 0xFFFF
  · exact .inl ⟨mapped, by simp only [ipv6Digits, ipv6Text, mapped, if_true]⟩
  · exact .inr (by simp only [ipv6Digits, ipv6Text, if_neg mapped])

theorem ipv6_digits_parse (ip : BitVec 128) : ipv6IntFromString (ipv6Digits ip) = some ip.toNat := by
  rcases ipv6_digits_cases ip with ⟨mapped, dotted⟩ | plain
  · rw [dotted, ipv6_int_mapped ip mapped]
  · rw [plain, ipv6_int_text ip.toNat ip.isLt]

theorem ipv6_digits_avoid (ip : BitVec 128) (c : Char) (notColon : c ≠ ':') (notDot : c ≠ '.')
    (notHex : hexValue c = none) (notDigit : c.isDigit = false) : c ∉ ipv6Digits ip := by
  have groups (n : Nat) : c ∉ ipv6TextOfInt n := by
    intro member
    rcases ipv6_text_chars n c member with colon | digit
    · exact notColon colon
    · simp [notHex] at digit
  rcases ipv6_digits_cases ip with ⟨_, dotted⟩ | plain
  · simp [dotted, groups, notColon, ipv4_text_avoids (ip.setWidth 32) c notDot notDigit]
  · simp [plain, groups]

theorem ipv6_digits_colon (ip : BitVec 128) : ':' ∈ ipv6Digits ip := by
  rcases ipv6_digits_cases ip with ⟨_, dotted⟩ | plain
  · simp [dotted]
  · exact plain ▸ ipv6_text_colon ip.toNat

theorem split_scope_none (address : Str) (noPercent : '%' ∉ address) (noSlash : '/' ∉ address) :
    splitScopeId address noSlash = some (address, none) := by
  have absent : address.dropWhile (· ≠ '%') = [] := by
    rw [List.dropWhile_eq_nil_iff]
    intro c member
    have other : c ≠ '%' := by
      rintro rfl
      exact noPercent member
    simpa using other
  unfold splitScopeId
  split
  next => rfl
  next sep =>
      rw [absent] at sep
      cases sep

theorem split_scope_some (address : Str) (zone : ScopeId) (noPercent : '%' ∉ address)
    (noSlash : '/' ∉ address ++ ['%'] ++ zone.text) :
    splitScopeId (address ++ ['%'] ++ zone.text) noSlash = some (address, some zone) := by
  have keep : ∀ c ∈ address, (decide (c ≠ '%')) = true := by
    intro c member
    have other : c ≠ '%' := by
      rintro rfl
      exact noPercent member
    simpa using other
  have rest : (address ++ ['%'] ++ zone.text).dropWhile (· ≠ '%') = '%' :: zone.text := by
    rw [List.append_assoc, List.dropWhile_append_of_pos keep]
    rfl
  have front : (address ++ ['%'] ++ zone.text).takeWhile (· ≠ '%') = address := by
    rw [List.append_assoc, List.takeWhile_append_of_pos keep]
    simp
  have good : ¬ (zone.text = [] ∨ '%' ∈ zone.text) := by simp [zone.nonempty, zone.noPercent]
  unfold splitScopeId
  split
  next sep =>
      rw [rest] at sep
      cases sep
  next head tail sep =>
      rw [rest] at sep
      obtain ⟨_, rfl⟩ := List.cons.inj sep
      simp only [dif_neg good, front]

theorem ipv6_address_text (ip : BitVec 128) (scopeId : Option ScopeId) :
    ipv6Address (ipv6Text ip scopeId) = some (ip, scopeId) := by
  have noSlash := ipv6_digits_avoid ip '/' (by decide) (by decide) (by decide) (by decide)
  have noPercent := ipv6_digits_avoid ip '%' (by decide) (by decide) (by decide) (by decide)
  cases scopeId with
  | none =>
      change ipv6Address (ipv6Digits ip) = _
      rw [ipv6Address, dif_pos noSlash, split_scope_none _ noPercent]
      simp [ipv6_digits_parse]
  | some zone =>
      change ipv6Address (ipv6Digits ip ++ ['%'] ++ zone.text) = _
      have whole : '/' ∉ ipv6Digits ip ++ ['%'] ++ zone.text := by simp [noSlash, zone.noSlash]
      rw [ipv6Address, dif_pos whole, split_scope_some _ zone noPercent]
      simp [ipv6_digits_parse]

theorem ip_address_text (address : IpAddress) : ipAddress (addressText address) = some address := by
  cases address with
  | v4 ip => simp [addressText, ipAddress, ipv4_address_text]
  | v6 ip scopeId =>
      have colon : ':' ∈ ipv6Text ip scopeId := by
        cases scopeId with
        | none => exact ipv6_digits_colon ip
        | some zone => exact List.mem_append_left _ (List.mem_append_left _ (ipv6_digits_colon ip))
      simp [addressText, ipAddress, ipv4_address_colon _ colon, ipv6_address_text]

end Chassis.Ip
