import Chassis.HelmTemplate
import Chassis.Literals

set_option autoImplicit false

namespace Chassis.Helm

-- The tree with another value at the path; a path through something that is
-- no map is no path.
def setAt : List Str → Value → Value → Value
  | [], new, _ => new
  | name :: rest, new, .map members =>
      .map ((name, setAt rest new ((members.lookup name).getD .null)) :: members.filter (fun entry => entry.1 ≠ name))
  | _ :: _, _, value => value

def Value.set (values : Value) (path : String) (new : Value) : Value := setAt (path.toList.splitOn '.') new values

def apart (path other : String) : Bool :=
  !(path.toList.splitOn '.').isPrefixOf (other.toList.splitOn '.') &&
    !(other.toList.splitOn '.').isPrefixOf (path.toList.splitOn '.')

theorem apart_bytewise : apart = fun path other =>
    !((Literals.bytewise path).splitOn '.').isPrefixOf ((Literals.bytewise other).splitOn '.') &&
      !((Literals.bytewise other).splitOn '.').isPrefixOf ((Literals.bytewise path).splitOn '.') := by
  unfold apart
  rw [Literals.to_list_bytewise]

theorem lookup_filtered (members : List (Str × Value)) (name other : Str) (different : other ≠ name) :
    (members.filter (fun entry => entry.1 ≠ name)).lookup other = members.lookup other := by
  induction members with
  | nil => rfl
  | cons entry rest ih =>
      obtain ⟨key, value⟩ := entry
      by_cases here : key = name
      · have missed : (other == key) = false := beq_eq_false_iff_ne.mpr (here ▸ different)
        rw [List.filter_cons_of_neg (by simp [here]), ih]
        simp only [List.lookup_cons, missed]
      · rw [List.filter_cons_of_pos (by simp [here])]
        cases hit : other == key with
        | true => simp only [List.lookup_cons, hit]
        | false => simp only [List.lookup_cons, hit, ih]

theorem value_at_set (path other : List Str) (new value : Value) (above : ¬ path <+: other) (below : ¬ other <+: path) :
    valueAt other (setAt path new value) = valueAt other value := by
  induction path generalizing other value with
  | nil => exact absurd (List.nil_prefix) above
  | cons name rest ih =>
      cases other with
      | nil => exact absurd (List.nil_prefix) below
      | cons first later =>
          cases value with
          | map members =>
              simp only [valueAt, setAt, Value.field, Except.bind]
              by_cases same : first = name
              · subst same
                have apartAbove : ¬ rest <+: later := fun start => above (List.cons_prefix_cons.mpr ⟨rfl, start⟩)
                have apartBelow : ¬ later <+: rest := fun start => below (List.cons_prefix_cons.mpr ⟨rfl, start⟩)
                have hit : (first == first) = true := beq_self_eq_true first
                simp only [List.lookup_cons, hit, Option.getD_some]
                exact ih later _ apartAbove apartBelow
              · have missed : (first == name) = false := beq_eq_false_iff_ne.mpr same
                simp only [List.lookup_cons, missed, lookup_filtered members name first same]
          | null => rfl
          | bool value => rfl
          | int value => rfl
          | float value => rfl
          | text contents => rfl
          | list items => rfl

theorem at_set (values new : Value) (path other : String) (unrelated : apart path other = true) :
    (values.set path new).at other = values.at other := by
  simp only [apart, Bool.and_eq_true, Bool.not_eq_true'] at unrelated
  apply value_at_set
  · intro start
    exact absurd (List.isPrefixOf_iff_prefix.mpr start) (by simp [unrelated.1])
  · intro start
    exact absurd (List.isPrefixOf_iff_prefix.mpr start) (by simp [unrelated.2])

theorem value_at_beside (path other : List Str) (value found : Value) (beside : path.dropLast = other.dropLast)
    (nonempty : path ≠ []) (some : other ≠ []) (read : valueAt path value = .ok found) :
    ∃ next, valueAt other value = .ok next := by
  induction path generalizing other value with
  | nil => exact absurd rfl nonempty
  | cons name rest ih =>
      cases other with
      | nil => exact absurd rfl some
      | cons first later =>
          cases value with
          | map members =>
              cases rest with
              | nil =>
                  cases later with
                  | nil => exact ⟨_, rfl⟩
                  | cons second last => cases beside
              | cons second last =>
                  cases later with
                  | nil => cases beside
                  | cons third final =>
                      obtain ⟨same, deeper⟩ := List.cons.inj beside
                      cases same
                      exact ih (third :: final) _ deeper (List.cons_ne_nil _ _) (List.cons_ne_nil _ _) read
          | null => cases read
          | bool value => cases read
          | int value => cases read
          | float value => cases read
          | text contents => cases read
          | list items => cases read

def beside (path other : String) : Bool :=
  (path.toList.splitOn '.').dropLast = (other.toList.splitOn '.').dropLast ∧ path.toList.splitOn '.' ≠ [] ∧
    other.toList.splitOn '.' ≠ []

theorem at_beside (values found : Value) (path other : String) (siblings : beside path other = true)
    (read : values.at path = .ok found) : ∃ next, values.at other = .ok next := by
  obtain ⟨same, nonempty, some⟩ := of_decide_eq_true siblings
  exact value_at_beside _ _ values found same nonempty some read

def Expr.paths : Expr → List String
  | .literal _ => []
  | .values path => [path]
  | .appVersion => []
  | .default fallback given => fallback.paths ++ given.paths
  | .eq left right => left.paths ++ right.paths
  | .or left right => left.paths ++ right.paths

def Pipeline.paths (pipeline : Pipeline) : List String :=
  pipeline.path :: (match pipeline.fallback with
    | none => []
    | some expression => expression.paths)

def Template.paths : Template → List String
  | .done => []
  | .constant _ _ rest => rest.paths
  | .entry _ pipeline rest => pipeline.paths ++ rest.paths
  | .block condition body otherwise rest => condition.paths ++ body.paths ++ otherwise.paths ++ rest.paths
  | .each path rest => path :: rest.paths

def AgreeAt (paths : List String) (one other : Value) : Prop := ∀ path ∈ paths, one.at path = other.at path

theorem agree_append (first second : List String) (one other : Value) (agree : AgreeAt (first ++ second) one other) :
    AgreeAt first one other ∧ AgreeAt second one other :=
  List.forall_mem_append.mp agree

section Agreement

variable (sprig : Sprig) (version : Str) (one other : Value)

theorem eval_agree (expression : Expr) (agree : AgreeAt expression.paths one other) :
    expression.eval version one = expression.eval version other := by
  induction expression with
  | literal value => rfl
  | values path => exact agree path List.mem_cons_self
  | appVersion => rfl
  | default fallback given fallbackIh givenIh =>
      obtain ⟨first, second⟩ := agree_append _ _ one other agree
      rw [Expr.eval, Expr.eval, fallbackIh first, givenIh second]
  | eq left right leftIh rightIh =>
      obtain ⟨first, second⟩ := agree_append _ _ one other agree
      rw [Expr.eval, Expr.eval, leftIh first, rightIh second]
  | or left right leftIh rightIh =>
      obtain ⟨first, second⟩ := agree_append _ _ one other agree
      rw [Expr.eval, Expr.eval, leftIh first, rightIh second]

theorem choose_agree (pipeline : Pipeline) (agree : AgreeAt pipeline.paths one other) :
    pipeline.choose version one = pipeline.choose version other := by
  obtain ⟨given, rest⟩ := List.forall_mem_cons.mp agree
  unfold Pipeline.choose
  rw [given]
  cases fallback : pipeline.fallback with
  | none => rfl
  | some expression =>
      rw [fallback] at rest
      dsimp only
      rw [eval_agree version one other expression rest]

theorem render_agree (template : Template) (agree : AgreeAt template.paths one other) :
    template.render sprig version one = template.render sprig version other := by
  induction template with
  | done => rfl
  | constant name scalar rest ih => rw [Template.render, Template.render, ih agree]
  | entry name pipeline rest ih =>
      obtain ⟨own, later⟩ := agree_append _ _ one other agree
      rw [Template.render, Template.render, Pipeline.render, Pipeline.render, choose_agree version one other pipeline own, ih later]
  | block condition body otherwise rest bodyIh otherwiseIh ih =>
      obtain ⟨inside, later⟩ := agree_append _ _ one other agree
      obtain ⟨before, ofOtherwise⟩ := agree_append _ _ one other inside
      obtain ⟨ofCondition, ofBody⟩ := agree_append _ _ one other before
      rw [Template.render, Template.render, eval_agree version one other condition ofCondition, bodyIh ofBody,
        otherwiseIh ofOtherwise, ih later]
  | each path rest ih =>
      obtain ⟨here, later⟩ := List.forall_mem_cons.mp agree
      rw [Template.render, Template.render, here, ih later]

end Agreement

end Chassis.Helm
