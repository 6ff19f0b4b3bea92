import Chassis.Dict
import Chassis.Urls

set_option autoImplicit false

namespace Chassis.ConfigParser

open Urls (splitFirst split_first_some)

inductive ConfigError where
  | invalidSyntax
  | interpolationSyntax
  | interpolationMissingOption
  | interpolationDepth
deriving DecidableEq, Repr

-- The regular expression %\(([^)]+)\)s at the front of the text: the name and
-- what follows the match.
def matchReference (text : Str) : Option (Str × Str) :=
  match text with
  | '%' :: '(' :: tail =>
      match splitFirst ')' tail with
      | some (name, 's' :: rest) => if name = [] then none else some (name, rest)
      | _ => none
  | _ => none

def referenceText (name : Str) : Str := '%' :: '(' :: name ++ [')', 's']

theorem match_reference_some (text name rest : Str) :
    matchReference text = some (name, rest) ↔ text = referenceText name ++ rest ∧ name ≠ [] ∧ ')' ∉ name := by
  constructor
  · intro found
    unfold matchReference at found
    split at found
    next tail =>
        split at found
        next before after cut =>
            obtain ⟨whole, absent⟩ := (split_first_some ')' _ _ _).mp cut
            by_cases empty : before = []
            · rw [if_pos empty] at found
              cases found
            · rw [if_neg empty] at found
              cases found
              exact ⟨by simp [whole, referenceText], empty, absent⟩
        next => cases found
    next => cases found
  · rintro ⟨rfl, given, absent⟩
    have shape : referenceText name ++ rest = '%' :: '(' :: (name ++ ')' :: 's' :: rest) := by simp [referenceText]
    rw [shape, matchReference, (split_first_some ')' _ _ _).mpr ⟨rfl, absent⟩]
    simp [given]

theorem match_reference_shorter (text name rest : Str) (found : matchReference text = some (name, rest)) :
    rest.length < text.length := by
  rw [((match_reference_some text name rest).mp found).1]
  simp [referenceText]
  omega

-- value.replace("%%", "")
def removeEscaped : Str → Str
  | '%' :: '%' :: rest => removeEscaped rest
  | c :: rest => c :: removeEscaped rest
  | [] => []

-- _KEYCRE.sub("", value)
def removeReferences (value : Str) : Str :=
  match value with
  | [] => []
  | c :: rest =>
      match _found : matchReference (c :: rest) with
      | some (_, after) => removeReferences after
      | none => c :: removeReferences rest
termination_by value.length
decreasing_by
  · exact match_reference_shorter _ _ _ _found
  · simp

-- BasicInterpolation.before_set, which ConfigParser.set applies
def beforeSet (value : Str) : Except ConfigError Str :=
  if '%' ∈ removeReferences (removeEscaped value) then .error .invalidSyntax else .ok value

def append (first second : Except ConfigError Str) : Except ConfigError Str :=
  match first with
  | .error raised => .error raised
  | .ok text => second.map (fun later => text ++ later)

theorem append_ok (first second : Except ConfigError Str) :
    (∃ text, append first second = .ok text) ↔ (∃ text, first = .ok text) ∧ ∃ text, second = .ok text := by
  cases first with
  | error raised => simp [append]
  | ok text => cases second <;> simp [append, Except.map]

theorem remove_escaped_plain (c : Char) (rest : Str) (other : c ≠ '%') :
    removeEscaped (c :: rest) = c :: removeEscaped rest := by
  simp [removeEscaped, other]

theorem remove_escaped_append (before rest : Str) (plain : '%' ∉ before) :
    removeEscaped (before ++ rest) = before ++ removeEscaped rest := by
  induction before with
  | nil => rfl
  | cons c tail ih =>
      obtain ⟨first, later⟩ := not_or.mp (mt List.mem_cons.mpr plain)
      rw [List.cons_append, remove_escaped_plain c _ (Ne.symm first), ih later, List.cons_append]

theorem remove_escaped_single (c : Char) (rest : Str) (other : c ≠ '%') :
    removeEscaped ('%' :: c :: rest) = '%' :: c :: removeEscaped rest := by
  have step : removeEscaped ('%' :: c :: rest) = '%' :: removeEscaped (c :: rest) := by
    rw [removeEscaped.eq_def]
    split
    next same => exact absurd (List.cons.inj (List.cons.inj same).2).1 other
    next same =>
        cases same
        rfl
    next same => cases same
  rw [step, remove_escaped_plain c rest other]

theorem no_reference (c : Char) (rest : Str) (other : c ≠ '%' ∨ rest.head? ≠ some '(') :
    matchReference (c :: rest) = none := by
  cases found : matchReference (c :: rest) with
  | none => rfl
  | some parts =>
      obtain ⟨whole, _⟩ := (match_reference_some _ parts.1 parts.2).mp found
      simp only [referenceText, List.cons_append, List.cons.injEq] at whole
      rcases other with different | different
      · exact absurd whole.1 different
      · rw [whole.2] at different
        exact absurd rfl different

theorem remove_references_kept (c : Char) (rest : Str) (other : c ≠ '%' ∨ rest.head? ≠ some '(') :
    removeReferences (c :: rest) = c :: removeReferences rest := by
  rw [removeReferences]
  split
  next name after found =>
      rw [no_reference c rest other] at found
      cases found
  next => rfl

theorem remove_references_append (before rest : Str) (plain : '%' ∉ before) :
    removeReferences (before ++ rest) = before ++ removeReferences rest := by
  induction before with
  | nil => rfl
  | cons c tail ih =>
      obtain ⟨first, later⟩ := not_or.mp (mt List.mem_cons.mpr plain)
      rw [List.cons_append, remove_references_kept c _ (.inl (Ne.symm first)), ih later, List.cons_append]

theorem remove_references_reference (name rest : Str) (given : name ≠ []) (closed : ')' ∉ name) :
    removeReferences (referenceText name ++ rest) = removeReferences rest := by
  have found := (match_reference_some (referenceText name ++ rest) name rest).mpr ⟨rfl, given, closed⟩
  have shape : referenceText name ++ rest = '%' :: ('(' :: (name ++ ')' :: 's' :: rest)) := by simp [referenceText]
  rw [shape] at found ⊢
  rw [removeReferences]
  split
  next own after again =>
      rw [found] at again
      cases again
      rfl
  next missing =>
      rw [found] at missing
      cases missing

theorem stray_percent_refused (before after : Str) (c : Char) (plain : '%' ∉ before) (unescaped : c ≠ '%')
    (unnamed : c ≠ '(') : beforeSet (before ++ '%' :: c :: after) = .error .invalidSyntax := by
  have kept : removeReferences (removeEscaped (before ++ '%' :: c :: after)) =
      before ++ '%' :: removeReferences (c :: removeEscaped after) := by
    rw [remove_escaped_append before _ plain, remove_escaped_single c after unescaped,
      remove_references_append before _ plain, remove_references_kept '%' _ (.inr (by simpa using unnamed))]
  rw [beforeSet, kept, if_pos (by simp)]

section Interpolation

-- The options that a value may refer to, and how their names are normalized.
variable (optionxform : Str → Str) (options : Dict Str Str)

-- The loop of _interpolate_some; nested expands the value of an option.
def expand (nested : Str → Except ConfigError Str) (rest : Str) : Except ConfigError Str :=
  match rest with
  | [] => .ok []
  | c :: tail =>
      if c ≠ '%' then (expand nested tail).map (fun later => c :: later)
      else
        match tail with
        | [] => .error .interpolationSyntax
        | next :: others =>
            if next = '%' then (expand nested others).map (fun later => '%' :: later)
            else if next = '(' then
              match _found : matchReference (c :: next :: others) with
              | none => .error .interpolationSyntax
              | some (name, after) =>
                  match options.get (optionxform name) with
                  | none => .error .interpolationMissingOption
                  | some value => append (if '%' ∈ value then nested value else .ok value) (expand nested after)
            else .error .interpolationSyntax
termination_by rest.length
decreasing_by
  · simp only [List.length_cons]
    omega
  · simp only [List.length_cons]
    omega
  · exact match_reference_shorter _ _ _ _found

-- The first argument is how many levels are left of MAX_INTERPOLATION_DEPTH.
def interpolateSome : Nat → Str → Except ConfigError Str
  | 0, _ => .error .interpolationDepth
  | level + 1, value => expand optionxform options (interpolateSome level) value

def beforeGet (value : Str) : Except ConfigError Str := interpolateSome optionxform options 10 value

-- ConfigParser.get of an option that the section has, and items of the section.
def getOption (option : Str) : Except ConfigError (Option Str) :=
  match options.get option with
  | none => .ok none
  | some value => (beforeGet optionxform options value).map some

def items : Except ConfigError (List (Str × Str)) :=
  options.items.mapM (fun item => (beforeGet optionxform options item.2).map (fun value => (item.1, value)))

inductive Tokens (good : Str → Prop) : Str → Prop where
  | nil : Tokens good []
  | plain (c : Char) (rest : Str) (other : c ≠ '%') (tokens : Tokens good rest) : Tokens good (c :: rest)
  | escaped (rest : Str) (tokens : Tokens good rest) : Tokens good ('%' :: '%' :: rest)
  | reference (name value rest : Str) (given : name ≠ []) (closed : ')' ∉ name)
      (held : options.get (optionxform name) = some value) (nested : '%' ∈ value → good value)
      (tokens : Tokens good rest) : Tokens good (referenceText name ++ rest)

def Reads : Nat → Str → Prop
  | 0, _ => False
  | level + 1, value => Tokens optionxform options (Reads level) value

theorem expand_plain (nested : Str → Except ConfigError Str) (c : Char) (rest : Str) (other : c ≠ '%') :
    expand optionxform options nested (c :: rest) =
      (expand optionxform options nested rest).map (fun later => c :: later) := by
  rw [expand.eq_def]
  simp [other]

theorem expand_escaped (nested : Str → Except ConfigError Str) (rest : Str) :
    expand optionxform options nested ('%' :: '%' :: rest) =
      (expand optionxform options nested rest).map (fun later => '%' :: later) := by
  rw [expand.eq_def]
  simp

theorem expand_reference (nested : Str → Except ConfigError Str) (name value rest : Str) (given : name ≠ [])
    (closed : ')' ∉ name) (held : options.get (optionxform name) = some value) :
    expand optionxform options nested (referenceText name ++ rest) =
      append (if '%' ∈ value then nested value else .ok value) (expand optionxform options nested rest) := by
  have found := (match_reference_some (referenceText name ++ rest) name rest).mpr ⟨rfl, given, closed⟩
  have shape : referenceText name ++ rest = '%' :: '(' :: (name ++ ')' :: 's' :: rest) := by simp [referenceText]
  rw [shape] at found ⊢
  rw [expand.eq_def]
  simp only [ne_eq, not_true_eq_false, if_false]
  rw [if_neg (by decide), if_pos trivial]
  split
  next missing =>
      rw [found] at missing
      cases missing
  next own after again =>
      rw [found] at again
      cases again
      rw [held]

theorem map_ok_iff {α β : Type} (f : α → β) (result : Except ConfigError α) :
    (∃ mapped, result.map f = .ok mapped) ↔ ∃ value, result = .ok value := by
  cases result <;> simp [Except.map]

theorem tokens_expand (nested : Str → Except ConfigError Str) (good : Str → Prop)
    (each : ∀ value, good value → ∃ text, nested value = .ok text) (rest : Str)
    (tokens : Tokens optionxform options good rest) :
    ∃ text, expand optionxform options nested rest = .ok text := by
  induction tokens with
  | nil => exact ⟨[], by rw [expand.eq_def]⟩
  | plain c rest other _ ih =>
      rw [expand_plain _ _ _ c rest other, map_ok_iff]
      exact ih
  | escaped rest _ ih =>
      rw [expand_escaped, map_ok_iff]
      exact ih
  | reference name value rest given closed held inner _ ih =>
      rw [expand_reference _ _ _ name value rest given closed held, append_ok]
      refine ⟨?_, ih⟩
      by_cases percent : '%' ∈ value
      · rw [if_pos percent]
        exact each value (inner percent)
      · rw [if_neg percent]
        exact ⟨value, rfl⟩

theorem expand_tokens (nested : Str → Except ConfigError Str) (good : Str → Prop)
    (each : ∀ value, (∃ text, nested value = .ok text) → good value) (rest : Str)
    (expanded : ∃ text, expand optionxform options nested rest = .ok text) : Tokens optionxform options good rest := by
  fun_induction expand optionxform options nested rest with
  | case1 => exact .nil
  | case2 c tail other ih => exact .plain c tail other (ih ((map_ok_iff _ _).mp expanded))
  | case4 c percent others ih =>
      rw [not_not.mp percent]
      exact .escaped others (ih ((map_ok_iff _ _).mp expanded))
  | case7 c percent others name after value held unescaped found ih =>
      obtain ⟨whole, given, closed⟩ := (match_reference_some _ _ _).mp found
      obtain ⟨inner, later⟩ := (append_ok _ _).mp expanded
      rw [whole]
      refine .reference name value after given closed held ?_ (ih later)
      intro inside
      rw [if_pos inside] at inner
      exact each value inner
  | case3 => simp at expanded
  | case5 => simp at expanded
  | case6 => simp at expanded
  | case8 => simp at expanded

theorem interpolate_ok_iff (level : Nat) (value : Str) :
    (∃ text, interpolateSome optionxform options level value = .ok text) ↔ Reads optionxform options level value := by
  induction level generalizing value with
  | zero => simp [interpolateSome, Reads]
  | succ level ih =>
      rw [interpolateSome, Reads]
      exact ⟨expand_tokens optionxform options _ _ (fun value => (ih value).mp) value,
        tokens_expand optionxform options _ _ (fun value => (ih value).mpr) value⟩

theorem items_ok_iff :
    (∃ values, items optionxform options = .ok values) ↔
      ∀ item ∈ options.items, Reads optionxform options 10 item.2 := by
  have each (item : Str × Str) :
      (∃ shown, (beforeGet optionxform options item.2).map (fun value => (item.1, value)) = .ok shown) ↔
        Reads optionxform options 10 item.2 := by
    rw [map_ok_iff, beforeGet, interpolate_ok_iff]
  have all := map_m_all (fun item : Str × Str =>
    (beforeGet optionxform options item.2).map (fun value => (item.1, value))) (fun _ => True) options.items
  simp only [and_true, each] at all
  simpa [items] using all

theorem tokens_of_plain (good : Str → Prop) (value : Str) (plain : '%' ∉ value) : Tokens optionxform options good value := by
  induction value with
  | nil => exact .nil
  | cons c rest ih =>
      obtain ⟨first, later⟩ := not_or.mp (mt List.mem_cons.mpr plain)
      exact .plain c rest (Ne.symm first) (ih later)

theorem tokens_settable (keepsPercent : ∀ name, '%' ∈ name → '%' ∈ optionxform name)
    (names : ∀ name ∈ options.keys, '%' ∉ name) (good : Str → Prop) (value : Str)
    (tokens : Tokens optionxform options good value) : beforeSet value = .ok value := by
  have clean : '%' ∉ removeReferences (removeEscaped value) := by
    induction tokens with
    | nil => simp [removeEscaped, removeReferences]
    | plain c rest other _ ih =>
        rw [remove_escaped_plain c rest other, remove_references_kept c _ (.inl other)]
        simp [Ne.symm other, ih]
    | escaped rest _ ih =>
        rw [removeEscaped]
        exact ih
    | reference name value rest given closed held _ _ ih =>
        have listed := (Dict.mem_keys options _).mpr ⟨value, held⟩
        have plain : '%' ∉ name := fun inside => names _ listed (keepsPercent name inside)
        have shape : referenceText name ++ rest = '%' :: '(' :: ((name ++ [')', 's']) ++ rest) := by simp [referenceText]
        have kept : removeEscaped (referenceText name ++ rest) = referenceText name ++ removeEscaped rest := by
          rw [shape, remove_escaped_single '(' _ (by decide), remove_escaped_append _ _ (by simp [plain])]
          simp [referenceText]
        rw [kept, remove_references_reference name _ given closed]
        exact ih
  rw [beforeSet, if_neg clean]

theorem reads_settable (keepsPercent : ∀ name, '%' ∈ name → '%' ∈ optionxform name)
    (names : ∀ name ∈ options.keys, '%' ∉ name) (level : Nat) (value : Str)
    (reads : Reads optionxform options level value) : beforeSet value = .ok value := by
  cases level with
  | zero => cases reads
  | succ level => exact tokens_settable optionxform options keepsPercent names _ value reads

theorem reads_plain (level : Nat) (value : Str) (plain : '%' ∉ value) : Reads optionxform options (level + 1) value :=
  tokens_of_plain optionxform options _ value plain

end Interpolation

end Chassis.ConfigParser
