import Chassis.Dict
import Chassis.Urls

set_option autoImplicit false

namespace Chassis.Tracing

open Text
open Urls (splitFirst split_first_some split_first_none)

-- str.partition("=") without the separator
def partitionItem (item : Str) : Str × Str := (splitFirst '=' item).getD (item, [])

-- One round of the loop: the entry it stores, if any.
def parseItem (item : Str) : Option (Str × Str) :=
  let (key, value) := partitionItem item
  if key ≠ [] ∧ value ≠ [] then some (strip key, strip value) else none

def parseHeaders (rawHeaders : Str) : Dict Str Str :=
  if rawHeaders = [] then Dict.empty else Dict.ofPairs ((rawHeaders.splitOn ',').filterMap parseItem)

-- A pair as it may be written down, with blanks around its parts.
structure WrittenHeader where
  name : Str
  value : Str
  beforeName : Str
  afterName : Str
  beforeValue : Str
  afterValue : Str
  nameGiven : name ≠ []
  nameTrimmed : strip name = name
  nameWhole : ',' ∉ name ∧ '=' ∉ name
  valueGiven : value ≠ []
  valueTrimmed : strip value = value
  valueWhole : ',' ∉ value
  blanks : ∀ part ∈ [beforeName, afterName, beforeValue, afterValue], Blank part

def WrittenHeader.text (header : WrittenHeader) : Str :=
  (header.beforeName ++ header.name ++ header.afterName) ++
    '=' :: (header.beforeValue ++ header.value ++ header.afterValue)

def WellFormedEntry (name value : Str) : Prop :=
  (name ≠ [] ∧ strip name = name ∧ ',' ∉ name ∧ '=' ∉ name) ∧ value ≠ [] ∧ strip value = value

-- No item is stored under a name of blanks, and one whose value is all blanks
-- is overwritten by a later item of the same name.
def PartsVisible (rawHeaders : Str) : Prop :=
  ∀ before item after key value, rawHeaders.splitOn ',' = before ++ item :: after →
    splitFirst '=' item = some (key, value) → key ≠ [] → value ≠ [] →
      ¬ Blank key ∧
        (Blank value → ∃ later ∈ after, ∃ otherKey otherValue, splitFirst '=' later = some (otherKey, otherValue) ∧
          otherKey ≠ [] ∧ otherValue ≠ [] ∧ strip otherKey = strip key)

theorem parse_item_some (item name stored : Str) :
    parseItem item = some (name, stored) ↔
      ∃ key value, splitFirst '=' item = some (key, value) ∧ key ≠ [] ∧ value ≠ [] ∧ strip key = name ∧
        strip value = stored := by
  unfold parseItem partitionItem
  cases cut : splitFirst '=' item with
  | none => simp
  | some parts =>
      obtain ⟨key, value⟩ := parts
      simp [and_assoc]

theorem parse_headers (rawHeaders : Str) :
    parseHeaders rawHeaders = Dict.ofPairs ((rawHeaders.splitOn ',').filterMap parseItem) := by
  unfold parseHeaders
  by_cases empty : rawHeaders = []
  · rw [if_pos empty, empty]
    rfl
  · rw [if_neg empty]

theorem separator_not_blank (blank : Str) (spaces : Blank blank) : ',' ∉ blank ∧ '=' ∉ blank := by
  constructor
  · intro member
    cases spaces ',' member
  · intro member
    cases spaces '=' member

theorem written_parts (header : WrittenHeader) :
    Blank header.beforeName ∧ Blank header.afterName ∧ Blank header.beforeValue ∧ Blank header.afterValue := by
  refine ⟨header.blanks _ ?_, header.blanks _ ?_, header.blanks _ ?_, header.blanks _ ?_⟩ <;> simp

theorem written_comma_free (header : WrittenHeader) : ',' ∉ header.text := by
  obtain ⟨beforeName, afterName, beforeValue, afterValue⟩ := written_parts header
  simp [WrittenHeader.text, header.nameWhole.1, header.valueWhole, (separator_not_blank _ beforeName).1,
    (separator_not_blank _ afterName).1, (separator_not_blank _ beforeValue).1, (separator_not_blank _ afterValue).1]

theorem parse_written (header : WrittenHeader) : parseItem header.text = some (header.name, header.value) := by
  obtain ⟨beforeName, afterName, beforeValue, afterValue⟩ := written_parts header
  apply (parse_item_some _ _ _).mpr
  refine ⟨_, _, (split_first_some '=' _ _ _).mpr ⟨rfl, ?_⟩, ?_, ?_, ?_, ?_⟩
  · simp [header.nameWhole.2, (separator_not_blank _ beforeName).2, (separator_not_blank _ afterName).2]
  · simp [header.nameGiven]
  · simp [header.valueGiven]
  · rw [strip_surrounded _ _ _ beforeName afterName, header.nameTrimmed]
  · rw [strip_surrounded _ _ _ beforeValue afterValue, header.valueTrimmed]

theorem parse_written_all (headers : List WrittenHeader) :
    parseHeaders (join [','] (headers.map WrittenHeader.text)) =
      Dict.ofPairs (headers.map (fun header => (header.name, header.value))) := by
  rw [parse_headers]
  cases headers with
  | nil => rfl
  | cons first rest =>
      have parts := split_join_map ',' WrittenHeader.text (first :: rest) (List.cons_ne_nil _ _) written_comma_free
      have read : ((first :: rest).map WrittenHeader.text).filterMap parseItem =
          (first :: rest).map (fun header => (header.name, header.value)) := by
        rw [List.filterMap_map, ← List.filterMap_eq_map]
        apply List.filterMap_congr
        intro header _
        exact parse_written header
      rw [parts, read]

theorem entry_of_item (rawHeaders name stored : Str) :
    (parseHeaders rawHeaders).get name = some stored ↔
      ∃ before item after, rawHeaders.splitOn ',' = before ++ item :: after ∧ parseItem item = some (name, stored) ∧
        ∀ later ∈ after, ∀ other, parseItem later ≠ some (name, other) := by
  have unnamed (items : List Str) : name ∉ (items.filterMap parseItem).map Prod.fst ↔
      ∀ later ∈ items, ∀ other, parseItem later ≠ some (name, other) := by
    simp only [List.mem_map, List.mem_filterMap, Prod.exists, exists_and_right, exists_eq_right, not_exists, not_and]
    constructor
    · intro absent later member other parsed
      exact absent other later member parsed
    · intro absent other later member parsed
      exact absent later member other parsed
  rw [parse_headers, Dict.of_pairs_last]
  constructor
  · rintro ⟨before, after, split, absent⟩
    obtain ⟨front, rest, whole, _, restSplit⟩ := List.filterMap_eq_append_iff.mp split
    obtain ⟨skipped, item, back, restWhole, _, parsed, backParsed⟩ := List.filterMap_eq_cons_iff.mp restSplit
    refine ⟨front ++ skipped, item, back, by rw [whole, restWhole, List.append_assoc], parsed, ?_⟩
    rw [← backParsed] at absent
    exact (unnamed back).mp absent
  · rintro ⟨before, item, after, whole, parsed, absent⟩
    refine ⟨before.filterMap parseItem, after.filterMap parseItem, ?_, (unnamed after).mpr absent⟩
    rw [whole, List.filterMap_append, List.filterMap_cons, parsed]

theorem item_name_free (rawHeaders item name stored : Str) (member : item ∈ rawHeaders.splitOn ',')
    (parsed : parseItem item = some (name, stored)) : ',' ∉ name ∧ '=' ∉ name := by
  obtain ⟨key, value, cut, _, _, keyName, _⟩ := (parse_item_some item name stored).mp parsed
  obtain ⟨whole, equalsFree⟩ := (split_first_some '=' item key value).mp cut
  have commaFree := split_part_free ',' rawHeaders item member
  rw [← keyName]
  constructor
  · intro inside
    exact commaFree (by simp [whole, mem_of_strip key ',' inside])
  · intro inside
    exact equalsFree (mem_of_strip key '=' inside)

theorem visible_well_formed (rawHeaders : Str) (visible : PartsVisible rawHeaders) (name stored : Str)
    (found : (parseHeaders rawHeaders).get name = some stored) : WellFormedEntry name stored := by
  obtain ⟨before, item, after, whole, parsed, last⟩ := (entry_of_item rawHeaders name stored).mp found
  obtain ⟨key, value, cut, keyGiven, valueGiven, keyName, valueStored⟩ := (parse_item_some item name stored).mp parsed
  obtain ⟨keyVisible, overwritten⟩ := visible before item after key value whole cut keyGiven valueGiven
  have free := item_name_free rawHeaders item name stored (by simp [whole]) parsed
  refine ⟨⟨?_, ?_, free⟩, ?_, ?_⟩
  · rw [← keyName]
    exact fun empty => keyVisible ((strip_eq_nil key).mp empty)
  · rw [← keyName, strip_strip]
  · rintro rfl
    obtain ⟨later, member, otherKey, otherValue, otherCut, otherGiven, otherValued, same⟩ :=
      overwritten ((strip_eq_nil value).mp valueStored)
    exact last later member _ ((parse_item_some later name _).mpr
      ⟨otherKey, otherValue, otherCut, otherGiven, otherValued, same.trans keyName, rfl⟩)
  · rw [← valueStored, strip_strip]

theorem well_formed_visible (rawHeaders : Str)
    (wellFormed : ∀ name stored, (parseHeaders rawHeaders).get name = some stored → WellFormedEntry name stored) :
    PartsVisible rawHeaders := by
  intro before item after key value whole cut keyGiven valueGiven
  have parsed : parseItem item = some (strip key, strip value) :=
    (parse_item_some item _ _).mpr ⟨key, value, cut, keyGiven, valueGiven, rfl, rfl⟩
  constructor
  · intro blank
    have listed : strip key ∈ (parseHeaders rawHeaders).keys := by
      rw [parse_headers, Dict.of_pairs_keys, whole]
      simp [parsed]
    obtain ⟨stored, found⟩ := (Dict.mem_keys _ _).mp listed
    exact (wellFormed _ stored found).1.1 ((strip_eq_nil key).mpr blank)
  · intro blank
    by_contra kept
    have found : (parseHeaders rawHeaders).get (strip key) = some [] := by
      refine (entry_of_item rawHeaders _ _).mpr ⟨before, item, after, whole, ?_, ?_⟩
      · rw [parsed, (strip_eq_nil value).mpr blank]
      · intro later member other otherParsed
        obtain ⟨otherKey, otherValue, otherCut, otherGiven, otherValued, same, _⟩ :=
          (parse_item_some later _ _).mp otherParsed
        exact kept ⟨later, member, otherKey, otherValue, otherCut, otherGiven, otherValued, same⟩
    exact (wellFormed _ _ found).2.1 rfl

theorem parse_headers_exact (rawHeaders : Str) :
    (∀ (headers : List WrittenHeader) (name value : Str),
      (parseHeaders (join [','] (headers.map WrittenHeader.text))).get name = some value ↔
        ∃ before header after, headers = before ++ header :: after ∧ header.name = name ∧ header.value = value ∧
          ∀ later ∈ after, later.name ≠ name) ∧
    ((∀ name value, (parseHeaders rawHeaders).get name = some value → WellFormedEntry name value) ↔
      PartsVisible rawHeaders) := by
  constructor
  · intro headers name value
    rw [parse_written_all, Dict.of_pairs_last]
    constructor
    · rintro ⟨before, after, split, absent⟩
      obtain ⟨front, rest, whole, _, restSplit⟩ := List.map_eq_append_iff.mp split
      obtain ⟨header, back, restWhole, same, backMapped⟩ := List.map_eq_cons_iff.mp restSplit
      refine ⟨front, header, back, by rw [whole, restWhole], congrArg Prod.fst same, congrArg Prod.snd same, ?_⟩
      intro later member named
      rw [← backMapped, List.map_map] at absent
      exact absent (List.mem_map.mpr ⟨later, member, named⟩)
    · rintro ⟨before, header, after, rfl, rfl, rfl, last⟩
      refine ⟨before.map _, after.map _, List.map_append, ?_⟩
      rw [List.map_map]
      intro member
      obtain ⟨later, inside, named⟩ := List.mem_map.mp member
      exact last later inside named
  · exact ⟨well_formed_visible rawHeaders, visible_well_formed rawHeaders⟩

theorem blank_parts_stored :
    (parseHeaders " =x".toList).get [] = some ['x'] ∧ (parseHeaders "a= ".toList).get ['a'] = some [] ∧
    ¬ ∀ rawHeaders name value, (parseHeaders rawHeaders).get name = some value → WellFormedEntry name value := by
  have nameless : (parseHeaders " =x".toList).get [] = some ['x'] := by decide
  have valueless : (parseHeaders "a= ".toList).get ['a'] = some [] := by decide
  exact ⟨nameless, valueless, fun wellFormed => (wellFormed _ _ _ nameless).1.1 rfl⟩

end Chassis.Tracing
