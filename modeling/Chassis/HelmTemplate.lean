import Chassis.Dict
import Chassis.HelmValues
import Chassis.YamlScalar

set_option autoImplicit false

namespace Chassis.Helm

open Text

inductive TemplateError where
  | nilPointer
  | noField
  | incompatibleTypes
  | noRange
deriving DecidableEq

-- cast.ToInt64 reads a string; the rest of the functions are below.
structure Sprig where
  printing : Printing
  castInt64 : Str → Int64

-- A missing member of a map is nil.
def Value.field (name : Str) : Value → Except TemplateError Value
  | .map members => .ok ((members.lookup name).getD .null)
  | .null => .error .nilPointer
  | _ => .error .noField

def valueAt : List Str → Value → Except TemplateError Value
  | [], value => .ok value
  | name :: rest, value => (value.field name).bind (valueAt rest)

-- .Values.<path>
def Value.at (values : Value) (path : String) : Except TemplateError Value := valueAt (path.toList.splitOn '.') values

def equal : Value → Value → Except TemplateError Value
  | .text left, .text right => .ok (.bool (left = right))
  | .bool left, .bool right => .ok (.bool (left = right))
  | .int left, .int right => .ok (.bool (left = right))
  | .float left, .float right => .ok (.bool (left.mantissa = right.mantissa ∧ left.exponent = right.exponent))
  | _, _ => .error .incompatibleTypes

inductive Expr where
  | literal (value : Value)
  | values (path : String)
  | appVersion
  | default (fallback given : Expr)
  | eq (left right : Expr)
  | or (left right : Expr)

def Expr.eval (appVersion : Str) (values : Value) : Expr → Except TemplateError Value
  | .literal value => .ok value
  | .values path => values.at path
  | .appVersion => .ok (.text appVersion)
  | .default fallback given => do
      let given ← given.eval appVersion values
      let fallback ← fallback.eval appVersion values
      .ok (if given.isEmpty then fallback else given)
  | .eq left right => do
      let left ← left.eval appVersion values
      let right ← right.eval appVersion values
      equal left right
  | .or left right => do
      let left ← left.eval appVersion values
      if left.isEmpty then right.eval appVersion values else .ok left

-- What stands between the value and `quote`: nothing, `| int64`, an included
-- template that prints it, or printf "<start>%s".
inductive Conversion where
  | plain
  | int64
  | printed
  | printf (start : String)
deriving DecidableEq

-- {{ .Values.<path> | default <fallback> | <conversion> | quote }}
structure Pipeline where
  path : String
  fallback : Option Expr := none
  conversion : Conversion := .plain

def quote (printing : Printing) : Value → Str
  | .null => []
  | value => goQuote printing value.goText

section Evaluation

variable (sprig : Sprig) (appVersion : Str) (values : Value)

def toInt64 : Value → Int64
  | .int value => value
  | .float value => value.truncate
  | .bool value => if value then 1 else 0
  | .text contents => sprig.castInt64 contents
  | _ => 0

def print : Value → Str
  | .null => "<no value>".toList
  | value => value.goText

def convert : Conversion → Value → Value
  | .plain, value => value
  | .int64, value => .int (toInt64 sprig value)
  | .printed, value => .text (print value)
  | .printf start, value => .text (start.toList ++ value.format .s)

def Pipeline.choose (pipeline : Pipeline) : Except TemplateError Value := do
  let given ← values.at pipeline.path
  match pipeline.fallback with
  | none => .ok given
  | some expression =>
      let fallback ← expression.eval appVersion values
      .ok (if given.isEmpty then fallback else given)

def Pipeline.render (pipeline : Pipeline) : Except TemplateError Str :=
  (pipeline.choose appVersion values).map (fun value => quote sprig.printing (convert sprig pipeline.conversion value))

end Evaluation

-- The lines of a mapping, one after the other: a line with a fixed scalar, one
-- with a pipeline, {{ if }} with its {{ else }}, and {{ with }} around {{ range }}.
inductive Template where
  | done
  | constant (name : String) (scalar : String) (rest : Template)
  | entry (name : String) (pipeline : Pipeline) (rest : Template)
  | block (condition : Expr) (body otherwise rest : Template)
  | each (path : String) (rest : Template)

def rangeLines (printing : Printing) : Value → Except TemplateError (List (Str × Str))
  | .map members => .ok (members.map (fun member => (member.1, quote printing member.2)))
  | .list items => .ok (items.zipIdx.map (fun item => (natText item.2, quote printing item.1)))
  | _ => .error .noRange

theorem range_empty (printing : Printing) (value : Value) (empty : value.isEmpty = true) (inside : List (Str × Str))
    (ranged : rangeLines printing value = .ok inside) : inside = [] := by
  cases value with
  | list items =>
      cases ranged
      rw [List.isEmpty_iff.mp empty]
      rfl
  | map members =>
      cases ranged
      rw [List.isEmpty_iff.mp empty]
      rfl
  | _ => cases ranged

namespace Template

def render (sprig : Sprig) (appVersion : Str) (values : Value) : Template → Except TemplateError (List (Str × Str))
  | done => .ok []
  | constant name scalar rest => do
      let lines ← rest.render sprig appVersion values
      .ok ((name.toList, scalar.toList) :: lines)
  | entry name pipeline rest => do
      let scalar ← pipeline.render sprig appVersion values
      let lines ← rest.render sprig appVersion values
      .ok ((name.toList, scalar) :: lines)
  | block condition body otherwise rest => do
      let value ← condition.eval appVersion values
      let inside ← (if value.isEmpty then otherwise.render sprig appVersion values
        else body.render sprig appVersion values)
      let lines ← rest.render sprig appVersion values
      .ok (inside ++ lines)
  | each path rest => do
      let value ← values.at path
      let inside ← (if value.isEmpty then .ok [] else rangeLines sprig.printing value)
      let lines ← rest.render sprig appVersion values
      .ok (inside ++ lines)

def entries (appVersion : Str) (values : Value) : Template → List (String × Pipeline)
  | done => []
  | constant _ _ rest => rest.entries appVersion values
  | entry name pipeline rest => (name, pipeline) :: rest.entries appVersion values
  | block condition body otherwise rest =>
      (match condition.eval appVersion values with
        | .ok value => if value.isEmpty then otherwise.entries appVersion values else body.entries appVersion values
        | .error _ => []) ++ rest.entries appVersion values
  | each _ rest => rest.entries appVersion values

def outerEntries : Template → List (String × Pipeline)
  | done => []
  | constant _ _ rest => rest.outerEntries
  | entry name pipeline rest => (name, pipeline) :: rest.outerEntries
  | block _ _ _ rest => rest.outerEntries
  | each _ rest => rest.outerEntries

def outerBlocks : Template → List (Expr × Template)
  | done => []
  | constant _ _ rest => rest.outerBlocks
  | entry _ _ rest => rest.outerBlocks
  | block condition body _ rest => (condition, body) :: rest.outerBlocks
  | each _ rest => rest.outerBlocks

def allEntries : Template → List (String × Pipeline)
  | done => []
  | constant _ _ rest => rest.allEntries
  | entry name pipeline rest => (name, pipeline) :: rest.allEntries
  | block _ body otherwise rest => body.allEntries ++ otherwise.allEntries ++ rest.allEntries
  | each _ rest => rest.allEntries

def names : Template → List Str
  | done => []
  | constant name _ rest => name.toList :: rest.names
  | entry name _ rest => name.toList :: rest.names
  | block _ body otherwise rest => body.names ++ otherwise.names ++ rest.names
  | each _ rest => rest.names

section Rendering

variable (sprig : Sprig) (appVersion : Str) (values : Value)

theorem render_entry (template : Template) (lines : List (Str × Str)) (name : String) (pipeline : Pipeline)
    (rendered : template.render sprig appVersion values = .ok lines)
    (listed : (name, pipeline) ∈ template.entries appVersion values) :
    ∃ scalar, pipeline.render sprig appVersion values = .ok scalar ∧ (name.toList, scalar) ∈ lines := by
  induction template generalizing lines with
  | done => cases listed
  | constant other scalar rest ih =>
      obtain ⟨others, done, rendered⟩ := bind_ok _ _ _ rendered
      cases rendered
      obtain ⟨own, written, member⟩ := ih others done listed
      exact ⟨own, written, List.mem_cons_of_mem _ member⟩
  | entry other own rest ih =>
      obtain ⟨scalar, written, rendered⟩ := bind_ok _ _ _ rendered
      obtain ⟨others, done, rendered⟩ := bind_ok _ _ _ rendered
      cases rendered
      cases List.mem_cons.mp listed with
      | inl same =>
          cases same
          exact ⟨scalar, written, List.mem_cons_self⟩
      | inr later =>
          obtain ⟨own, written, member⟩ := ih others done later
          exact ⟨own, written, List.mem_cons_of_mem _ member⟩
  | block condition body otherwise rest ihBody ihOtherwise ihRest =>
      obtain ⟨value, decided, rendered⟩ := bind_ok _ _ _ rendered
      obtain ⟨inside, within, rendered⟩ := bind_ok _ _ _ rendered
      obtain ⟨others, done, rendered⟩ := bind_ok _ _ _ rendered
      cases rendered
      rw [entries, decided] at listed
      cases List.mem_append.mp listed with
      | inl inBlock =>
          dsimp only at inBlock
          cases empty : value.isEmpty with
          | true =>
              rw [if_pos empty] at inBlock within
              obtain ⟨own, written, member⟩ := ihOtherwise inside within inBlock
              exact ⟨own, written, List.mem_append_left _ member⟩
          | false =>
              rw [if_neg (by simp [empty])] at inBlock within
              obtain ⟨own, written, member⟩ := ihBody inside within inBlock
              exact ⟨own, written, List.mem_append_left _ member⟩
      | inr later =>
          obtain ⟨own, written, member⟩ := ihRest others done later
          exact ⟨own, written, List.mem_append_right _ member⟩
  | each path rest ih =>
      obtain ⟨value, _, rendered⟩ := bind_ok _ _ _ rendered
      obtain ⟨inside, _, rendered⟩ := bind_ok _ _ _ rendered
      obtain ⟨others, done, rendered⟩ := bind_ok _ _ _ rendered
      cases rendered
      obtain ⟨own, written, member⟩ := ih others done listed
      exact ⟨own, written, List.mem_append_right _ member⟩

theorem entries_all (template : Template) : ∀ entry ∈ template.entries appVersion values, entry ∈ template.allEntries := by
  induction template with
  | done => exact fun _ listed => listed
  | constant _ _ rest ih => exact ih
  | entry name pipeline rest ih =>
      intro entry listed
      cases List.mem_cons.mp listed with
      | inl same => exact List.mem_cons.mpr (.inl same)
      | inr later => exact List.mem_cons_of_mem _ (ih entry later)
  | block condition body otherwise rest ihBody ihOtherwise ihRest =>
      intro entry listed
      cases List.mem_append.mp listed with
      | inr later => exact List.mem_append_right _ (ihRest entry later)
      | inl inBlock =>
          refine List.mem_append_left _ ?_
          cases decided : condition.eval appVersion values with
          | error raised =>
              rw [decided] at inBlock
              cases inBlock
          | ok value =>
              rw [decided] at inBlock
              dsimp only at inBlock
              split at inBlock
              · exact List.mem_append_right _ (ihOtherwise entry inBlock)
              · exact List.mem_append_left _ (ihBody entry inBlock)
  | each _ rest ih => exact ih

theorem outer_entries_rendered (template : Template) :
    ∀ entry ∈ template.outerEntries, entry ∈ template.entries appVersion values := by
  induction template with
  | done => exact fun _ listed => listed
  | constant _ _ rest ih => exact ih
  | entry name pipeline rest ih =>
      intro entry listed
      cases List.mem_cons.mp listed with
      | inl same => exact List.mem_cons.mpr (.inl same)
      | inr later => exact List.mem_cons_of_mem _ (ih entry later)
  | block _ _ _ rest _ _ ih =>
      intro entry listed
      exact List.mem_append_right _ (ih entry listed)
  | each _ rest ih => exact ih

theorem outer_blocks_rendered (template : Template) (condition : Expr) (body : Template)
    (placed : (condition, body) ∈ template.outerBlocks) (value : Value) (decided : condition.eval appVersion values = .ok value)
    (holds : value.isEmpty = false) : ∀ entry ∈ body.entries appVersion values, entry ∈ template.entries appVersion values := by
  induction template with
  | done => cases placed
  | constant _ _ rest ih => exact ih placed
  | entry name pipeline rest ih => exact fun entry listed => List.mem_cons_of_mem _ (ih placed entry listed)
  | block other inside otherwise rest _ _ ih =>
      intro entry listed
      cases List.mem_cons.mp placed with
      | inl same =>
          cases same
          refine List.mem_append_left _ ?_
          rw [decided]
          dsimp only
          rw [if_neg (by simp [holds])]
          exact listed
      | inr later => exact List.mem_append_right _ (ih later entry listed)
  | each _ rest ih => exact ih placed

def Extras : Template → Prop
  | done => True
  | constant _ _ rest => rest.Extras
  | entry _ _ rest => rest.Extras
  | block _ body otherwise rest => body.Extras ∧ otherwise.Extras ∧ rest.Extras
  | each path rest => (∀ value, values.at path = .ok value → value.isEmpty = true) ∧ rest.Extras

theorem render_names (template : Template) (lines : List (Str × Str)) (extras : template.Extras values)
    (rendered : template.render sprig appVersion values = .ok lines) : (lines.map Prod.fst).Sublist template.names := by
  induction template generalizing lines with
  | done =>
      cases rendered
      exact List.Sublist.refl _
  | constant name scalar rest ih =>
      obtain ⟨others, done, rendered⟩ := bind_ok _ _ _ rendered
      cases rendered
      exact (ih others extras done).cons_cons _
  | entry name pipeline rest ih =>
      obtain ⟨scalar, _, rendered⟩ := bind_ok _ _ _ rendered
      obtain ⟨others, done, rendered⟩ := bind_ok _ _ _ rendered
      cases rendered
      exact (ih others extras done).cons_cons _
  | block condition body otherwise rest ihBody ihOtherwise ihRest =>
      obtain ⟨value, _, rendered⟩ := bind_ok _ _ _ rendered
      obtain ⟨inside, within, rendered⟩ := bind_ok _ _ _ rendered
      obtain ⟨others, done, rendered⟩ := bind_ok _ _ _ rendered
      cases rendered
      rw [List.map_append]
      refine List.Sublist.append ?_ (ihRest others extras.2.2 done)
      split at within
      · exact (ihOtherwise inside extras.2.1 within).trans (List.sublist_append_right _ _)
      · exact (ihBody inside extras.1 within).trans (List.sublist_append_left _ _)
  | each path rest ih =>
      obtain ⟨value, found, rendered⟩ := bind_ok _ _ _ rendered
      obtain ⟨inside, within, rendered⟩ := bind_ok _ _ _ rendered
      obtain ⟨others, done, rendered⟩ := bind_ok _ _ _ rendered
      cases rendered
      rw [if_pos (extras.1 value found)] at within
      cases within
      exact ih others extras.2 done

def most (name : Str) : Template → Nat
  | done => 0
  | constant own _ rest => (if own.toList = name then 1 else 0) + rest.most name
  | entry own _ rest => (if own.toList = name then 1 else 0) + rest.most name
  | block _ body otherwise rest => max (body.most name) (otherwise.most name) + rest.most name
  | each _ rest => rest.most name

def Unnamed (printing : Printing) (name : Str) : Template → Prop
  | done => True
  | constant _ _ rest => rest.Unnamed printing name
  | entry _ _ rest => rest.Unnamed printing name
  | block _ body otherwise rest => body.Unnamed printing name ∧ otherwise.Unnamed printing name ∧ rest.Unnamed printing name
  | each path rest =>
      (∀ value inside, values.at path = .ok value → rangeLines printing value = .ok inside → name ∉ inside.map Prod.fst) ∧
        rest.Unnamed printing name

theorem render_count (template : Template) (lines : List (Str × Str)) (name : Str)
    (unnamed : template.Unnamed values sprig.printing name)
    (rendered : template.render sprig appVersion values = .ok lines) : (lines.map Prod.fst).count name ≤ template.most name := by
  induction template generalizing lines with
  | done =>
      cases rendered
      exact Nat.le_refl 0
  | constant own scalar rest ih =>
      obtain ⟨others, done, rendered⟩ := bind_ok _ _ _ rendered
      cases rendered
      have later := ih others unnamed done
      rw [List.map_cons, List.count_cons, most]
      simp only [beq_iff_eq]
      omega
  | entry own pipeline rest ih =>
      obtain ⟨scalar, _, rendered⟩ := bind_ok _ _ _ rendered
      obtain ⟨others, done, rendered⟩ := bind_ok _ _ _ rendered
      cases rendered
      have later := ih others unnamed done
      rw [List.map_cons, List.count_cons, most]
      simp only [beq_iff_eq]
      omega
  | block condition body otherwise rest ihBody ihOtherwise ihRest =>
      obtain ⟨value, _, rendered⟩ := bind_ok _ _ _ rendered
      obtain ⟨inside, within, rendered⟩ := bind_ok _ _ _ rendered
      obtain ⟨others, done, rendered⟩ := bind_ok _ _ _ rendered
      cases rendered
      rw [List.map_append, List.count_append, most]
      refine Nat.add_le_add ?_ (ihRest others unnamed.2.2 done)
      split at within
      · exact (ihOtherwise inside unnamed.2.1 within).trans (Nat.le_max_right _ _)
      · exact (ihBody inside unnamed.1 within).trans (Nat.le_max_left _ _)
  | each path rest ih =>
      obtain ⟨value, found, rendered⟩ := bind_ok _ _ _ rendered
      obtain ⟨inside, within, rendered⟩ := bind_ok _ _ _ rendered
      obtain ⟨others, done, rendered⟩ := bind_ok _ _ _ rendered
      cases rendered
      have absent : name ∉ inside.map Prod.fst := by
        split at within
        · cases within
          exact List.not_mem_nil
        · exact unnamed.1 value inside found within
      rw [List.map_append, List.count_append, List.count_eq_zero.mpr absent, Nat.zero_add]
      exact ih others unnamed.2 done

end Rendering

end Template

-- The data of the manifest. A key with an empty scalar is null, which the cluster
-- takes for an empty text; here it is no entry.
def manifestData (lines : List (Str × Str)) : Dict Str Str :=
  Dict.ofPairs (lines.filterMap (fun line => (readScalar line.2).map (fun text => (line.1, text))))

theorem manifest_names (lines : List (Str × Str)) :
    ((lines.filterMap (fun line => (readScalar line.2).map (fun text => (line.1, text)))).map Prod.fst).Sublist
      (lines.map Prod.fst) := by
  induction lines with
  | nil => exact List.Sublist.refl _
  | cons line rest ih =>
      rw [List.filterMap_cons]
      cases readScalar line.2 with
      | none => exact ih.cons _
      | some text => exact ih.cons_cons _

theorem manifest_absent (lines : List (Str × Str)) (name : Str) (absent : name ∉ lines.map Prod.fst) :
    (manifestData lines).get name = none := by
  rw [Dict.get_eq_none, manifestData, Dict.of_pairs_keys]
  exact fun member => absent ((manifest_names lines).mem member)

theorem manifest_single (lines : List (Str × Str)) (name scalar text : Str) (member : (name, scalar) ∈ lines)
    (single : (lines.map Prod.fst).count name ≤ 1) (read : readScalar scalar = some text) :
    (manifestData lines).get name = some text := by
  obtain ⟨before, after, split⟩ := List.append_of_mem
    (List.mem_filterMap.mpr ⟨(name, scalar), member, by simp only [read, Option.map_some]⟩ :
      (name, text) ∈ lines.filterMap (fun line => (readScalar line.2).map (fun text => (line.1, text))))
  refine (Dict.of_pairs_last _ name text).mpr ⟨before, after, split, ?_⟩
  intro again
  have most := ((manifest_names lines).count_le name).trans single
  rw [split, List.map_append, List.map_cons, List.count_append, List.count_cons_self] at most
  have more := List.count_pos_iff.mpr again
  omega

theorem read_quote (printing : Printing) (value : Value) (given : value.isNull = false) :
    readScalar (quote printing value) = some value.goText := by
  cases value with
  | null => cases given
  | bool value => exact read_go_quote printing _
  | int value => exact read_go_quote printing _
  | float value => exact read_go_quote printing _
  | text contents => exact read_go_quote printing _
  | list items => exact read_go_quote printing _
  | map members => exact read_go_quote printing _

end Chassis.Helm
