import Chassis.ConfigMap
import Chassis.JsonLengths

set_option autoImplicit false

namespace Chassis.Chart

open Chassis.Configuration Helm JsonText Text

def stringOf : Value → Option Str
  | .text contents => some contents
  | _ => none

-- A switch may be given as 0 or 1.
def ofNumber (kind : FieldKind) (n : Int) : Option kind.Value :=
  match kind with
  | .bool => if n = 0 then some false else if n = 1 then some true else none
  | .int ge le => (some n).filter (inRange ge le)
  | _ => none

-- What a field takes a value of the tree for, if it admits it: a string is read
-- as the text of a variable is, anything else is the value itself.
def meaning (parsing : Parsing) (kind : FieldKind) : Value → Option kind.Value
  | .text contents => parse parsing kind contents
  | .bool value =>
      match kind with
      | .bool => some value
      | _ => none
  | .int value => ofNumber kind value.toInt
  | .float value => value.whole.bind (ofNumber kind)
  | .list items =>
      match kind with
      | .strings => items.mapM stringOf
      | _ => none
  | _ => none

theorem meant_set (parsing : Parsing) (kind : FieldKind) (value : Value) (x : kind.Value)
    (meant : meaning parsing kind value = some x) : value.isNull = false := by
  cases value with
  | null => cases meant
  | _ => rfl

section Rendered

variable (sprig : Sprig) (parsing : Parsing)

-- The scalar of an entry read back from the manifest, put into the environment,
-- where no NUL can stand, and parsed.
def ReadAs (kind : FieldKind) (scalar : Str) (x : kind.Value) : Prop :=
  ∃ text, readScalar scalar = some text ∧ nul ∉ text ∧ parse parsing kind text = some x

def Reaches (version : Str) (values : Value) (lines : List (Str × Str)) (name : String) (pipeline : Pipeline)
    (kind : FieldKind) (x : kind.Value) : Prop :=
  ∃ scalar, pipeline.render sprig version values = .ok scalar ∧ (name.toList, scalar) ∈ lines ∧ ReadAs parsing kind scalar x

def Spelled (conversion : Conversion) (kind : FieldKind) (x : kind.Value) : Value → Prop
  | .text contents =>
      if conversion = .int64 then meaning parsing kind (.int (sprig.castInt64 contents)) = some x else nul ∉ contents
  | .float number => conversion = .int64 ∨ ∀ n, number.whole = some n → n.natAbs < 10 ^ 6
  | .list _ => meaning parsing kind (texted "[]") = some x
  | _ => True

structure Carried (version : Str) (values : Value) (pipeline : Pipeline) (kind : FieldKind) (given : Value)
    (x : kind.Value) : Prop where
  whole : ∀ start, pipeline.conversion ≠ .printf start
  replaced : ∀ expression, pipeline.fallback = some expression → given.isEmpty = true →
    ∃ other, expression.eval version values = .ok other ∧ meaning parsing kind other = some x
  spelled : pipeline.fallback = none ∨ given.isEmpty = false → Spelled sprig parsing pipeline.conversion kind x given

theorem convert_given (conversion : Conversion) (given : Value) (set : given.isNull = false) :
    (convert sprig conversion given).isNull = false := by
  cases conversion with
  | plain => exact set
  | int64 => rfl
  | printed => rfl
  | printf start => rfl

theorem read_as_iff (kind : FieldKind) (value : Value) (x : kind.Value) (set : value.isNull = false) :
    ReadAs parsing kind (quote sprig.printing value) x ↔ nul ∉ value.goText ∧ parse parsing kind value.goText = some x := by
  unfold ReadAs
  rw [read_quote sprig.printing value set]
  constructor
  · rintro ⟨text, same, clean, parsed⟩
    cases same
    exact ⟨clean, parsed⟩
  · intro read
    exact ⟨value.goText, rfl, read.1, read.2⟩

theorem convert_text (conversion : Conversion) (given : Value) (set : given.isNull = false) (uncast : conversion ≠ .int64)
    (whole : ∀ start, conversion ≠ .printf start) : (convert sprig conversion given).goText = given.goText := by
  cases conversion with
  | plain => rfl
  | int64 => exact absurd rfl uncast
  | printed =>
      cases given with
      | null => cases set
      | _ => rfl
  | printf start => exact absurd rfl (whole start)

theorem given_read_iff (conversion : Conversion) (kind : FieldKind) (given : Value) (x : kind.Value)
    (set : given.isNull = false) (uncast : conversion ≠ .int64) (whole : ∀ start, conversion ≠ .printf start) :
    ReadAs parsing kind (quote sprig.printing (convert sprig conversion given)) x ↔
      nul ∉ given.goText ∧ parse parsing kind given.goText = some x := by
  rw [read_as_iff sprig parsing kind _ x (convert_given sprig conversion given set),
    convert_text sprig conversion given set uncast whole]

end Rendered

theorem digits_clean (n : Nat) : nul ∉ natText n := by
  intro inside
  have digit := Connections.nat_text_digits n nul inside
  exact absurd digit (by decide)

theorem int_clean (n : Int) : nul ∉ intText n := by
  cases n with
  | ofNat n => exact digits_clean n
  | negSucc n =>
      have clean := digits_clean (n + 1)
      simpa [intText, nul] using clean

theorem switch_text (value : Bool) : parseBool (Value.bool value).goText = some value ∧ nul ∉ (Value.bool value).goText := by
  cases value with
  | true => decide
  | false => decide

theorem parse_number (parsing : Parsing) (kind : FieldKind) (n : Int) (x : kind.Value) (small : n.natAbs ≤ 2 ^ 63)
    (meant : ofNumber kind n = some x) : parse parsing kind (intText n) = some x := by
  cases kind with
  | bool =>
      by_cases off : n = 0
      · subst off
        have read : parseBool (intText 0) = some false := by decide
        rw [ofNumber, if_pos rfl] at meant
        exact read.trans meant
      · by_cases on : n = 1
        · subst on
          have read : parseBool (intText 1) = some true := by decide
          rw [ofNumber, if_neg off, if_pos rfl] at meant
          exact read.trans meant
        · rw [ofNumber, if_neg off, if_neg on] at meant
          cases meant
  | int ge le =>
      rw [parse_decimal parsing ge le n small]
      exact meant
  | str pattern => cases meant
  | strings => cases meant

theorem int64_small (n : Int64) : n.toInt.natAbs ≤ 2 ^ 63 := by
  have lower := n.le_toInt
  have upper := n.toInt_lt
  omega

theorem int_admitted (ge le : Option Int) (n x : Int) (meant : ofNumber (.int ge le) n = some x) :
    inRange ge le n = true := by
  cases range : inRange ge le n with
  | true => rfl
  | false =>
      have refused : ofNumber (.int ge le) n = none := Option.filter_some_neg (by simp [range])
      cases refused.symm.trans meant

theorem large_int (kind : FieldKind) (n : Int) (x : kind.Value) (large : 10 ^ 6 ≤ n.natAbs) (meant : ofNumber kind n = some x) :
    ∃ ge le, kind = .int ge le := by
  cases kind with
  | bool =>
      have off : n ≠ 0 := by omega
      have on : n ≠ 1 := by omega
      rw [ofNumber, if_neg off, if_neg on] at meant
      cases meant
  | int ge le => exact ⟨ge, le, rfl⟩
  | str pattern => cases meant
  | strings => cases meant

theorem strings_size (parsing : Parsing) (text : Str) (texts : List Str) (read : parseStrings parsing text = some texts) :
    (texts.map (fun item => item.length + 3)).sum + 1 ≤ text.length := by
  unfold parseStrings at read
  split at read
  next items loaded =>
    have size := loads_array_size parsing.interpreter text items loaded
    have same : (items.map (fun item => quotedSize item + 1)).sum = (texts.map (fun item => item.length + 3)).sum := by
      clear loaded size
      induction items generalizing texts with
      | nil =>
          cases read
          rfl
      | cons item rest ih =>
          rw [List.mapM_cons] at read
          obtain ⟨first, single, read⟩ := Option.bind_eq_some_iff.mp read
          obtain ⟨others, remaining, built⟩ := Option.bind_eq_some_iff.mp read
          cases built
          cases item with
          | str contents =>
              cases single
              rw [List.map_cons, List.sum_cons, List.map_cons, List.sum_cons, ih others remaining, quotedSize]
          | _ => cases single
    omega
  next => cases read

theorem join_blank_length (texts : List Str) :
    (join [' '] texts).length ≤ (texts.map (fun item => item.length + 1)).sum := by
  induction texts with
  | nil => exact Nat.le_refl 0
  | cons text rest ih =>
      cases rest with
      | nil => simp
      | cons other rest =>
          rw [join_cons, List.length_append, List.length_append, List.map_cons, List.sum_cons, List.length_singleton]
          omega

theorem format_strings (items : List Value) (texts : List Str) (strings : items.mapM stringOf = some texts) :
    Value.formatItems .v items = texts := by
  induction items generalizing texts with
  | nil =>
      cases strings
      rfl
  | cons item rest ih =>
      rw [List.mapM_cons] at strings
      obtain ⟨first, single, strings⟩ := Option.bind_eq_some_iff.mp strings
      obtain ⟨others, remaining, built⟩ := Option.bind_eq_some_iff.mp strings
      cases built
      rw [Value.format_items_cons, ih others remaining]
      cases item with
      | text contents => exact congrArg (· :: others) (Option.some.inj single)
      | _ => cases single

def listText (texts : List Str) : Str := '[' :: join [' '] texts ++ [']']

theorem strings_none (parsing : Parsing) (text : Str) (texts : List Str)
    (short : text.length ≤ (texts.map (fun item => item.length + 1)).sum + 2)
    (read : parseStrings parsing text = some texts) : texts = [] := by
  have size := strings_size parsing text texts read
  have more : (texts.map (fun item => item.length + 3)).sum =
      (texts.map (fun item => item.length + 1)).sum + 2 * texts.length := by
    clear read size short
    induction texts with
    | nil => rfl
    | cons text rest ih =>
        rw [List.map_cons, List.sum_cons, ih, List.map_cons, List.sum_cons, List.length_cons]
        omega
  exact List.eq_nil_of_length_eq_zero (by omega)

theorem list_text_short (texts : List Str) :
    (listText texts).length ≤ (texts.map (fun item => item.length + 1)).sum + 2 := by
  have length := join_blank_length texts
  rw [listText, List.length_append, List.length_cons, List.length_singleton]
  omega

def castable : FieldKind → Bool
  | .int (some ge) (some le) => -2 ^ 63 ≤ ge && le < 2 ^ 63
  | _ => false

-- `| int64` belongs to a number within the range of an int64, printf to a string.
def typed (kind : FieldKind) : Conversion → Bool
  | .int64 => castable kind
  | .printf start => kind = .str none && start ≠ ""
  | _ => true

theorem castable_bounds (kind : FieldKind) (fits : castable kind = true) :
    ∃ ge le, kind = .int (some ge) (some le) ∧ -2 ^ 63 ≤ ge ∧ le < 2 ^ 63 := by
  unfold castable at fits
  split at fits
  next ge le => exact ⟨ge, le, rfl, by simpa using fits⟩
  next => cases fits

theorem typed_uncast (kind : FieldKind) (conversion : Conversion) (fits : typed kind conversion = true)
    (other : castable kind = false) : conversion ≠ .int64 := by
  intro cast
  subst cast
  cases other.symm.trans fits

section Spelling

variable (sprig : Sprig) (parsing : Parsing) (conversion : Conversion) (kind : FieldKind) (x : kind.Value)
  (fits : typed kind conversion = true) (whole : ∀ start, conversion ≠ .printf start)

theorem number_read (value : Value) (n : Int) (set : value.isNull = false) (written : value.goText = intText n)
    (small : n.natAbs ≤ 2 ^ 63) (meant : ofNumber kind n = some x) :
    ReadAs parsing kind (quote sprig.printing value) x := by
  rw [read_as_iff sprig parsing kind value x set, written]
  exact ⟨int_clean n, parse_number parsing kind n x small meant⟩

include fits in
theorem cast_read (n : Int64) (cast : conversion = .int64) :
    ReadAs parsing kind (quote sprig.printing (.int n)) x ↔ meaning parsing kind (.int n) = some x := by
  subst cast
  obtain ⟨ge, le, rfl, _⟩ := castable_bounds kind fits
  have read : parse parsing (.int (some ge) (some le)) (Value.int n).goText = meaning parsing (.int (some ge) (some le)) (.int n) :=
    parse_decimal parsing (some ge) (some le) n.toInt (int64_small n)
  rw [read_as_iff sprig parsing _ _ x rfl, read]
  exact and_iff_right (int_clean n.toInt)

include fits whole in
theorem text_spelled (contents : Str) (meant : meaning parsing kind (.text contents) = some x) :
    ReadAs parsing kind (quote sprig.printing (convert sprig conversion (.text contents))) x ↔
      Spelled sprig parsing conversion kind x (.text contents) := by
  by_cases cast : conversion = .int64
  · have converted : convert sprig conversion (.text contents) = .int (sprig.castInt64 contents) := by
      rw [cast]
      rfl
    rw [converted, Spelled, if_pos cast]
    exact cast_read sprig parsing conversion kind x fits (sprig.castInt64 contents) cast
  · rw [given_read_iff sprig parsing conversion kind (.text contents) x rfl cast whole, Spelled, if_neg cast]
    exact and_iff_left meant

include fits whole in
theorem bool_read (value : Bool) (meant : meaning parsing kind (.bool value) = some x) :
    ReadAs parsing kind (quote sprig.printing (convert sprig conversion (.bool value))) x := by
  cases kind with
  | bool =>
      have uncast := typed_uncast .bool conversion fits rfl
      have read := switch_text value
      rw [given_read_iff sprig parsing conversion .bool (.bool value) x rfl uncast whole]
      exact ⟨read.2, read.1.trans meant⟩
  | int ge le => cases meant
  | str pattern => cases meant
  | strings => cases meant

include whole in
theorem int_read (n : Int64) (meant : meaning parsing kind (.int n) = some x) :
    ReadAs parsing kind (quote sprig.printing (convert sprig conversion (.int n))) x := by
  have set : (convert sprig conversion (.int n)).isNull = false := convert_given sprig conversion _ rfl
  have written : (convert sprig conversion (.int n)).goText = intText n.toInt := by
    by_cases cast : conversion = .int64
    · rw [cast]
      rfl
    · exact convert_text sprig conversion (.int n) rfl cast whole
  exact number_read sprig parsing kind x _ n.toInt set written (int64_small n) meant

include fits whole in
theorem float_spelled (number : GoFloat) (meant : meaning parsing kind (.float number) = some x) :
    ReadAs parsing kind (quote sprig.printing (convert sprig conversion (.float number))) x ↔
      Spelled sprig parsing conversion kind x (.float number) := by
  have set : (convert sprig conversion (.float number)).isNull = false := convert_given sprig conversion _ rfl
  obtain ⟨n, integral, meant⟩ := Option.bind_eq_some_iff.mp meant
  by_cases cast : conversion = .int64
  · subst cast
    obtain ⟨ge, le, rfl, lower, upper⟩ := castable_bounds kind fits
    have range := int_admitted (some ge) (some le) n x meant
    simp only [inRange, Option.all_some, Bool.and_eq_true, decide_eq_true_eq] at range
    have truncated : number.truncate.toInt = n := number.whole_truncate n integral (by omega) (by omega)
    have written : (convert sprig .int64 (.float number)).goText = intText n := congrArg intText truncated
    have small : n.natAbs ≤ 2 ^ 63 := by omega
    exact iff_of_true (number_read sprig parsing _ x _ n set written small meant) (.inl rfl)
  · have plain := convert_text sprig conversion (.float number) rfl cast whole
    by_cases small : n.natAbs < 10 ^ 6
    · have written := plain.trans (number.whole_text n integral small)
      refine iff_of_true (number_read sprig parsing kind x _ n set written (by omega) meant) (.inr ?_)
      intro other same
      cases integral.symm.trans same
      exact small
    · have large : 10 ^ 6 ≤ n.natAbs := by omega
      obtain ⟨ge, le, rfl⟩ := large_int kind n x large meant
      have unread := parse_exponent parsing ge le _ (number.whole_exponent n integral large)
      refine iff_of_false ?_ ?_
      · rw [given_read_iff sprig parsing conversion _ (.float number) x rfl cast whole]
        rintro ⟨_, read⟩
        cases unread.symm.trans read
      · rintro (casts | bounded)
        · exact cast casts
        · exact small (bounded n integral)

include fits whole in
theorem list_spelled (items : List Value) (meant : meaning parsing kind (.list items) = some x) :
    ReadAs parsing kind (quote sprig.printing (convert sprig conversion (.list items))) x ↔
      Spelled sprig parsing conversion kind x (.list items) := by
  cases kind with
  | bool => cases meant
  | int ge le => cases meant
  | str pattern => cases meant
  | strings =>
      have uncast := typed_uncast .strings conversion fits rfl
      have written : (Value.list items).goText = listText x := congrArg listText (format_strings items x meant)
      rw [given_read_iff sprig parsing conversion .strings (.list items) x rfl uncast whole, written]
      constructor
      · rintro ⟨_, read⟩
        cases strings_none parsing _ x (list_text_short x) read
        exact read
      · intro read
        cases strings_none parsing "[]".toList x (Nat.le_add_left 2 _) read
        exact ⟨by decide, read⟩

include fits whole in
theorem spelled_iff (given : Value) (meant : meaning parsing kind given = some x) :
    ReadAs parsing kind (quote sprig.printing (convert sprig conversion given)) x ↔
      Spelled sprig parsing conversion kind x given := by
  cases given with
  | null => cases meant
  | bool value => exact iff_of_true (bool_read sprig parsing conversion kind x fits whole value meant) trivial
  | int n => exact iff_of_true (int_read sprig parsing conversion kind x whole n meant) trivial
  | float number => exact float_spelled sprig parsing conversion kind x fits whole number meant
  | text contents => exact text_spelled sprig parsing conversion kind x fits whole contents meant
  | list items => exact list_spelled sprig parsing conversion kind x fits whole items meant
  | map members => cases meant

theorem read_unique (scalar : Str) (y : kind.Value) (first : ReadAs parsing kind scalar x)
    (second : ReadAs parsing kind scalar y) : x = y := by
  obtain ⟨text, same, _, read⟩ := first
  obtain ⟨other, again, _, reread⟩ := second
  cases same.symm.trans again
  exact Option.some.inj (read.symm.trans reread)

theorem read_known (scalar : Str) (value : Value) (y : kind.Value) (known : meaning parsing kind value = some y)
    (read : ReadAs parsing kind scalar y) : ReadAs parsing kind scalar x ↔ meaning parsing kind value = some x := by
  rw [known, Option.some_inj]
  constructor
  · intro other
    exact read_unique parsing kind y scalar x read other
  · intro same
    exact same ▸ read

end Spelling

def suits (kind : FieldKind) (conversion : Conversion) : Expr → Bool
  | .literal (.text contents) => conversion ≠ .int64 && nul ∉ contents
  | .literal (.bool _) => kind = .bool
  | .literal (.int n) =>
      match kind with
      | .int ge le => inRange ge le n.toInt
      | _ => false
  | .literal _ => false
  | _ => kind = .str none && conversion = .plain

section Defaults

variable (sprig : Sprig) (parsing : Parsing) (conversion : Conversion) (kind : FieldKind) (x : kind.Value)
  (fits : typed kind conversion = true) (whole : ∀ start, conversion ≠ .printf start)

include fits whole in
theorem literal_read (other : Value) (suitable : suits kind conversion (.literal other) = true) :
    ReadAs parsing kind (quote sprig.printing (convert sprig conversion other)) x ↔ meaning parsing kind other = some x := by
  cases other with
  | text contents =>
      simp only [suits, Bool.and_eq_true, decide_eq_true_eq] at suitable
      rw [given_read_iff sprig parsing conversion kind (.text contents) x rfl suitable.1 whole]
      exact and_iff_right suitable.2
  | bool value =>
      have switched : kind = .bool := by simpa [suits] using suitable
      subst switched
      exact read_known parsing .bool x _ (.bool value) value rfl
        (bool_read sprig parsing conversion .bool value fits whole value rfl)
  | int n =>
      cases kind with
      | int ge le =>
          have known : meaning parsing (.int ge le) (.int n) = some n.toInt := Option.filter_some_pos suitable
          exact read_known parsing _ x _ (.int n) n.toInt known (int_read sprig parsing conversion _ _ whole n known)
      | _ => cases suitable
  | _ => cases suitable

end Defaults

theorem go_text_nonempty (value : Value) (written : value.goText = []) : value = .text [] := by
  cases value with
  | null => exact absurd written (by decide)
  | bool value =>
      cases value with
      | true => exact absurd written (by decide)
      | false => exact absurd written (by decide)
  | int n => exact absurd written (int_text_nonempty n.toInt)
  | float number => exact absurd written number.go_text_nonempty
  | text contents => exact congrArg Value.text written
  | list items => cases written
  | map members => cases written

theorem free_meaning (parsing : Parsing) (value : Value) (x : Str) :
    meaning parsing (.str none) value = some x ↔ value = .text x := by
  constructor
  · intro meant
    cases value with
    | text contents => exact congrArg Value.text (Option.some.inj meant)
    | float number =>
        obtain ⟨n, _, impossible⟩ := Option.bind_eq_some_iff.mp meant
        cases impossible
    | _ => cases meant
  · intro same
    subst same
    rfl

theorem empty_read (sprig : Sprig) (parsing : Parsing) (other : Value) :
    ReadAs parsing (.str none) (quote sprig.printing other) (show Str from []) ↔ other = .text [] := by
  cases set : other.isNull with
  | true =>
      cases other with
      | null => exact iff_of_false (by rintro ⟨text, read, _⟩; cases read) nofun
      | _ => cases set
  | false =>
      refine (read_as_iff sprig parsing (.str none) other (show Str from []) set).trans ?_
      constructor
      · intro read
        exact go_text_nonempty other (Option.some.inj read.2)
      · intro same
        subst same
        exact ⟨List.not_mem_nil, rfl⟩

def wired (kind : FieldKind) (pipeline : Pipeline) : Bool :=
  typed kind pipeline.conversion && pipeline.fallback.all (suits kind pipeline.conversion)

section Pipelines

variable (sprig : Sprig) (parsing : Parsing) (version : Str) (values : Value) (pipeline : Pipeline) (kind : FieldKind)
  (given : Value) (x : kind.Value)

theorem carried_kept (whole : ∀ start, pipeline.conversion ≠ .printf start)
    (kept : pipeline.fallback = none ∨ given.isEmpty = false) :
    Carried sprig parsing version values pipeline kind given x ↔ Spelled sprig parsing pipeline.conversion kind x given := by
  constructor
  · intro carried
    exact carried.spelled kept
  · intro spelled
    refine ⟨whole, ?_, fun _ => spelled⟩
    intro expression fallback empty
    rw [fallback, empty] at kept
    simp at kept

theorem carried_replaced (expression : Expr) (other : Value) (whole : ∀ start, pipeline.conversion ≠ .printf start)
    (fallback : pipeline.fallback = some expression) (empty : given.isEmpty = true)
    (evaluated : expression.eval version values = .ok other) :
    Carried sprig parsing version values pipeline kind given x ↔ meaning parsing kind other = some x := by
  constructor
  · intro carried
    obtain ⟨taken, again, same⟩ := carried.replaced expression fallback empty
    cases evaluated.symm.trans again
    exact same
  · intro same
    refine ⟨whole, ?_, ?_⟩
    · intro _ again _
      cases fallback.symm.trans again
      exact ⟨other, evaluated, same⟩
    · intro kept
      rw [fallback, empty] at kept
      simp at kept

theorem suits_cases (conversion : Conversion) (expression : Expr) (suitable : suits kind conversion expression = true) :
    (∃ value, expression = .literal value) ∨ (kind = .str none ∧ conversion = .plain) := by
  cases expression with
  | literal value => exact .inl ⟨value, rfl⟩
  | _ => exact .inr (by simpa [suits] using suitable)

theorem default_read (conversion : Conversion) (expression : Expr) (other : Value) (fits : typed kind conversion = true)
    (whole : ∀ start, conversion ≠ .printf start) (suitable : suits kind conversion expression = true)
    (evaluated : expression.eval version values = .ok other) (empty : given.isEmpty = true)
    (meant : meaning parsing kind given = some x) :
    ReadAs parsing kind (quote sprig.printing (convert sprig conversion other)) x ↔ meaning parsing kind other = some x := by
  cases suits_cases kind conversion expression suitable with
  | inl literal =>
      obtain ⟨value, rfl⟩ := literal
      cases evaluated
      exact literal_read sprig parsing conversion kind x fits whole _ suitable
  | inr free =>
      obtain ⟨rfl, rfl⟩ := free
      cases (free_meaning parsing given x).mp meant
      cases List.isEmpty_iff.mp empty
      exact (empty_read sprig parsing other).trans (free_meaning parsing other []).symm

theorem printf_unread (start : String) (taken : Value) (x : Str) (starts : start ≠ "") (same : taken = .text x ∨ x = []) :
    ¬ ReadAs parsing (.str none) (quote sprig.printing (convert sprig (.printf start) taken)) (show Str from x) := by
  intro read
  have written : start.toList ++ taken.format .s = x := Option.some.inj ((read_as_iff sprig parsing (.str none) _ x rfl).mp read).2
  have long : start.toList ≠ [] := fun none => starts (String.toList_eq_nil_iff.mp none)
  cases same with
  | inl same =>
      subst same
      exact long (List.append_left_eq_self.mp written)
  | inr none =>
      subst none
      exact long (List.append_eq_nil_iff.mp written).1

theorem choose_ok (taken : Value) (found : values.at pipeline.path = .ok given)
    (chosen : pipeline.choose version values = .ok taken) :
    ((pipeline.fallback = none ∨ given.isEmpty = false) ∧ taken = given) ∨
      ∃ expression, pipeline.fallback = some expression ∧ given.isEmpty = true ∧
        expression.eval version values = .ok taken := by
  obtain ⟨set, again, chosen⟩ := bind_ok _ _ _ chosen
  cases found.symm.trans again
  cases fallback : pipeline.fallback with
  | none =>
      rw [fallback] at chosen
      cases chosen
      exact .inl ⟨.inl rfl, rfl⟩
  | some expression =>
      rw [fallback] at chosen
      obtain ⟨other, evaluated, chosen⟩ := bind_ok _ _ _ chosen
      cases chosen
      cases empty : given.isEmpty with
      | true => exact .inr ⟨expression, rfl, rfl, evaluated⟩
      | false => exact .inl ⟨.inr rfl, rfl⟩

theorem printf_lost (fits : typed kind pipeline.conversion = true) (start : String)
    (lengthens : pipeline.conversion = .printf start) (taken : Value) (found : values.at pipeline.path = .ok given)
    (meant : meaning parsing kind given = some x) (chosen : pipeline.choose version values = .ok taken) :
    ¬ ReadAs parsing kind (quote sprig.printing (convert sprig pipeline.conversion taken)) x := by
  rw [lengthens] at fits ⊢
  simp only [typed, Bool.and_eq_true, decide_eq_true_eq] at fits
  obtain ⟨rfl, starts⟩ := fits
  have text := (free_meaning parsing given x).mp meant
  refine printf_unread sprig parsing start taken x starts ?_
  cases choose_ok version values pipeline given taken found chosen with
  | inl kept => exact .inl (kept.2.trans text)
  | inr replaced =>
      obtain ⟨_, _, empty, _⟩ := replaced
      subst text
      exact .inr (List.isEmpty_iff.mp empty)

theorem pipeline_reads_iff (wires : wired kind pipeline = true) (taken : Value) (found : values.at pipeline.path = .ok given)
    (meant : meaning parsing kind given = some x) (chosen : pipeline.choose version values = .ok taken) :
    ReadAs parsing kind (quote sprig.printing (convert sprig pipeline.conversion taken)) x ↔
      Carried sprig parsing version values pipeline kind given x := by
  obtain ⟨fits, suitable⟩ := Bool.and_eq_true_iff.mp wires
  by_cases lengthens : ∃ start, pipeline.conversion = .printf start
  · obtain ⟨start, lengthens⟩ := lengthens
    have lost := printf_lost sprig parsing version values pipeline kind given x fits start lengthens taken found meant chosen
    exact iff_of_false lost (fun carried => carried.whole start lengthens)
  · have whole : ∀ start, pipeline.conversion ≠ .printf start := not_exists.mp lengthens
    cases choose_ok version values pipeline given taken found chosen with
    | inl kept =>
        obtain ⟨kept, rfl⟩ := kept
        rw [carried_kept sprig parsing version values pipeline kind taken x whole kept]
        exact spelled_iff sprig parsing pipeline.conversion kind x fits whole taken meant
    | inr replaced =>
        obtain ⟨expression, fallback, empty, evaluated⟩ := replaced
        rw [fallback, Option.all_some] at suitable
        rw [carried_replaced sprig parsing version values pipeline kind given x expression taken whole fallback empty
          evaluated]
        exact default_read sprig parsing version values kind given x pipeline.conversion expression taken fits whole suitable
          evaluated empty meant

end Pipelines

end Chassis.Chart
