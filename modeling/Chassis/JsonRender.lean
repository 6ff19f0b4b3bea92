import Chassis.Dict
import Chassis.JsonDumps
import Mathlib.Data.Rat.Floor

set_option autoImplicit false

namespace Chassis.JsonRender

open Text JsonText

inductive RenderError where
  | typeError
  | valueError
  | recursionError
  | unicodeEncodeError
deriving DecidableEq, Repr

-- A str holds any code points; a lone surrogate among them is no Char.
abbrev CodePoint := Fin 0x110000
abbrev PyStr := List CodePoint

def point (c : Char) : CodePoint := ⟨c.toNat, char_to_nat_lt c⟩

def points (text : Str) : PyStr := text.map point

def isSurrogate (p : CodePoint) : Bool := 0xD800 ≤ p.val ∧ p.val ≤ 0xDFFF

inductive PyFloat where
  | finite (value : Rat)
  | infinite (negative : Bool)
  | nan
deriving DecidableEq

-- round(), a half going to the even neighbour.
def roundHalfEven (x : Rat) : Int :=
  let low := x.floor
  if x - low < 1 / 2 then low
  else if 1 / 2 < x - low then low + 1
  else if low % 2 = 0 then low
  else low + 1

-- round(x, 2)
def PyFloat.round2 : PyFloat → PyFloat
  | .finite value => .finite (roundHalfEven (value * 100) / 100)
  | other => other

-- Objects that are no instance of a type the json module knows. A member of an
-- enumeration that is also a str or an int is that str or int instead.
inductive PyObject where
  | exception
  | date
  | decimal
  | bytes
  | enumMember
  | other (typeName : Str)
deriving DecidableEq

inductive PyKey where
  | none
  | bool (value : Bool)
  | int (value : Int)
  | float (value : PyFloat)
  | str (text : PyStr)
  | object (object : PyObject)
deriving DecidableEq

-- A tuple is rendered as the list of its items. A dict keeps its members in order.
inductive PyValue where
  | none
  | bool (value : Bool)
  | int (value : Int)
  | float (value : PyFloat)
  | str (text : PyStr)
  | list (items : List PyValue)
  | dict (members : List (PyKey × PyValue))
  | object (object : PyObject)

def PyKey.text (literal : String) : PyKey := .str (points literal.toList)

def PyValue.text (literal : String) : PyValue := .str (points literal.toList)

-- Without ensure_ascii a code point over 127 stands for itself.
def escapePoint (p : CodePoint) : PyStr := if isSurrogate p then [p] else points (escapeChar false (Char.ofNat p.val))

def quote (text : PyStr) : PyStr := point '"' :: text.flatMap escapePoint ++ [point '"']

section Dumps

variable (interpreter : Interpreter)

def intRepr (n : Int) : Except RenderError PyStr :=
  if interpreter.intMaxStrDigits < (natText n.natAbs).length then .error .valueError else .ok (points (intText n))

-- allow_nan is False.
def floatText : PyFloat → Except RenderError PyStr
  | .finite value => .ok (points (interpreter.floatRepr value))
  | .infinite _ => .error .valueError
  | .nan => .error .valueError

def boolText (value : Bool) : PyStr := points (if value then "true" else "false").toList

def keyText : PyKey → Except RenderError PyStr
  | .none => .ok (points "null".toList)
  | .bool value => .ok (boolText value)
  | .int n => intRepr interpreter n
  | .float x => floatText interpreter x
  | .str text => .ok text
  | .object _ => .error .typeError

def bracket (opening closing : Char) (texts : List PyStr) : PyStr :=
  point opening :: [point ','].intercalate texts ++ [point closing]

def memberText (write : PyValue → Except RenderError PyStr) (member : PyKey × PyValue) : Except RenderError PyStr := do
  let key ← keyText interpreter member.1
  let value ← write member.2
  return quote key ++ point ':' :: value

-- json.dumps with ensure_ascii and allow_nan off, the compact separators and no
-- default encoder; the first argument is how deep the recursion may still go.
def dumps : Nat → PyValue → Except RenderError PyStr
  | _, .none => .ok (points "null".toList)
  | _, .bool value => .ok (boolText value)
  | _, .int n => intRepr interpreter n
  | _, .float x => floatText interpreter x
  | _, .str text => .ok (quote text)
  | _, .object _ => .error .typeError
  | 0, .list _ => .error .recursionError
  | 0, .dict _ => .error .recursionError
  | depth + 1, .list items => (items.mapM (dumps depth)).map (bracket '[' ']')
  | depth + 1, .dict members => (members.mapM (memberText interpreter (dumps depth))).map (bracket '{' '}')

-- str.encode("utf-8")
def encode (text : PyStr) : Except RenderError Bytes :=
  if text.any isSurrogate then .error .unicodeEncodeError
  else .ok (utf8 (text.map (fun p => Char.ofNat p.val)))

-- starlette.responses.JSONResponse.render
def render (content : PyValue) : Except RenderError Bytes := (dumps interpreter interpreter.nesting content).bind encode

-- starlette.responses.JSONResponse, whose constructor renders the body.
structure RenderedResponse where
  statusCode : Nat
  content : PyValue
  body : Bytes
  rendered : render interpreter content = .ok body

def jsonResponse (statusCode : Nat) (content : PyValue) : Except RenderError (RenderedResponse interpreter) :=
  match rendered : render interpreter content with
  | .error raised => .error raised
  | .ok body => .ok ⟨statusCode, content, body, rendered⟩

def Encodable (text : PyStr) : Prop := ∀ p ∈ text, isSurrogate p = false

def Printable (n : Int) : Prop := (natText n.natAbs).length ≤ interpreter.intMaxStrDigits

def KeyRenderable : PyKey → Prop
  | .int n => Printable interpreter n
  | .float x => ∃ value, x = .finite value
  | .str text => Encodable text
  | .object _ => False
  | _ => True

-- What a JSON body can say, at most depth levels of lists and dicts deep.
def Renderable : Nat → PyValue → Prop
  | _, .int n => Printable interpreter n
  | _, .float x => ∃ value, x = .finite value
  | _, .str text => Encodable text
  | _, .object _ => False
  | 0, .list _ => False
  | 0, .dict _ => False
  | depth + 1, .list items => ∀ item ∈ items, Renderable depth item
  | depth + 1, .dict members => ∀ member ∈ members, KeyRenderable interpreter member.1 ∧ Renderable depth member.2
  | _, _ => True

end Dumps

theorem point_encodable (c : Char) : isSurrogate (point c) = false := by
  have valid : c.toNat < 0xD800 ∨ 0xDFFF < c.toNat := by
    rcases c.valid with low | high
    · exact .inl low
    · exact .inr high.1
  apply decide_eq_false
  simp only [point]
  omega

@[simp] theorem encodable_nil : Encodable [] := by
  intro p member
  cases member

@[simp] theorem encodable_cons (p : CodePoint) (text : PyStr) :
    Encodable (p :: text) ↔ isSurrogate p = false ∧ Encodable text := List.forall_mem_cons

@[simp] theorem encodable_append (left right : PyStr) : Encodable (left ++ right) ↔ Encodable left ∧ Encodable right :=
  List.forall_mem_append

@[simp] theorem points_encodable (text : Str) : Encodable (points text) := by
  intro p member
  obtain ⟨c, _, rfl⟩ := List.mem_map.mp member
  exact point_encodable c

theorem escape_encodable (p : CodePoint) : Encodable (escapePoint p) ↔ isSurrogate p = false := by
  cases lone : isSurrogate p with
  | true => simp [escapePoint, lone]
  | false => simp [escapePoint, lone]

@[simp] theorem quote_encodable (text : PyStr) : Encodable (quote text) ↔ Encodable text := by
  have escaped : Encodable (text.flatMap escapePoint) ↔ Encodable text := by
    induction text with
    | nil => simp
    | cons p rest ih => rw [List.flatMap_cons, encodable_append, ih, escape_encodable, encodable_cons]
  simp [quote, point_encodable, escaped]

theorem bracket_encodable (opening closing : Char) (texts : List PyStr) :
    Encodable (bracket opening closing texts) ↔ ∀ text ∈ texts, Encodable text := by
  have joined : Encodable ([point ','].intercalate texts) ↔ ∀ text ∈ texts, Encodable text := by
    induction texts with
    | nil => simp [List.intercalate]
    | cons first rest ih =>
        cases rest with
        | nil => simp [List.intercalate]
        | cons second others =>
            have unfolded : [point ','].intercalate (first :: second :: others) =
                first ++ point ',' :: [point ','].intercalate (second :: others) := by simp [List.intercalate]
            rw [unfolded, encodable_append, encodable_cons, ih, List.forall_mem_cons]
            simp [point_encodable]
  simp [bracket, point_encodable, joined]

section Rendering

variable (interpreter : Interpreter)

def Writes (written : Except RenderError PyStr) : Prop := ∃ text, written = .ok text ∧ Encodable text

theorem writes_ok (text : PyStr) : Writes (.ok text) ↔ Encodable text := by
  simp [Writes]

theorem writes_error (raised : RenderError) : ¬ Writes (.error raised) := by
  rintro ⟨text, impossible, _⟩
  cases impossible

theorem literal_key (literal : String) : KeyRenderable interpreter (.text literal) := points_encodable literal.toList

theorem literal_value (depth : Nat) (literal : String) : Renderable interpreter depth (.text literal) := by
  cases depth <;> exact points_encodable literal.toList

theorem object_unrenderable (depth : Nat) (object : PyObject) : ¬ Renderable interpreter depth (.object object) := by
  cases depth <;> exact id

theorem renderable_dict (depth : Nat) (members : List (PyKey × PyValue)) :
    Renderable interpreter (depth + 1) (.dict members) ↔
      ∀ member ∈ members, KeyRenderable interpreter member.1 ∧ Renderable interpreter depth member.2 := by
  rw [Renderable]

theorem int_writes (n : Int) : Writes (intRepr interpreter n) ↔ Printable interpreter n := by
  unfold intRepr
  by_cases long : interpreter.intMaxStrDigits < (natText n.natAbs).length
  · rw [if_pos long]
    exact ⟨fun written => absurd written (writes_error _), fun short => absurd short (Nat.not_le.mpr long)⟩
  · rw [if_neg long, writes_ok]
    exact ⟨fun _ => Nat.le_of_not_lt long, fun _ => points_encodable _⟩

theorem float_writes (x : PyFloat) : Writes (floatText interpreter x) ↔ ∃ value, x = .finite value := by
  cases x with
  | finite value => simp [floatText, writes_ok]
  | infinite negative => simp [floatText, writes_error]
  | nan => simp [floatText, writes_error]

theorem key_writes (key : PyKey) : Writes (keyText interpreter key) ↔ KeyRenderable interpreter key := by
  cases key with
  | none => simp [keyText, KeyRenderable, writes_ok]
  | bool value => simp [keyText, KeyRenderable, writes_ok, boolText]
  | int n => exact int_writes interpreter n
  | float x => exact float_writes interpreter x
  | str text => exact writes_ok text
  | object object => exact ⟨fun written => absurd written (writes_error _), False.elim⟩

theorem bracket_writes {α : Type} (opening closing : Char) (write : α → Except RenderError PyStr) (items : List α) :
    Writes ((items.mapM write).map (bracket opening closing)) ↔ ∀ item ∈ items, Writes (write item) := by
  unfold Writes
  rw [← map_m_all write Encodable items]
  cases items.mapM write with
  | error raised => simp [Except.map]
  | ok texts => simp [Except.map, bracket_encodable]

theorem member_writes (write : PyValue → Except RenderError PyStr) (member : PyKey × PyValue) :
    Writes (memberText interpreter write member) ↔ Writes (keyText interpreter member.1) ∧ Writes (write member.2) := by
  unfold memberText
  cases keyText interpreter member.1 with
  | error raised => simp [writes_error, bind, Except.bind]
  | ok key =>
      cases write member.2 with
      | error raised => simp [writes_error, bind, Except.bind]
      | ok value => simp [writes_ok, bind, Except.bind, pure, Except.pure, point_encodable]

theorem leaf_writes (depth : Nat) (value : PyValue) (noList : ∀ items, value ≠ .list items)
    (noDict : ∀ members, value ≠ .dict members) :
    Writes (dumps interpreter depth value) ↔ Renderable interpreter depth value := by
  cases value with
  | none => cases depth <;> simp [dumps, Renderable, writes_ok]
  | bool value => cases depth <;> simp [dumps, Renderable, writes_ok, boolText]
  | int n => cases depth <;> simpa [dumps, Renderable] using int_writes interpreter n
  | float x => cases depth <;> simpa [dumps, Renderable] using float_writes interpreter x
  | str text => cases depth <;> simp [dumps, Renderable, writes_ok]
  | object object => cases depth <;> simp [dumps, Renderable, writes_error]
  | list items => exact absurd rfl (noList items)
  | dict members => exact absurd rfl (noDict members)

theorem dumps_writes (depth : Nat) (value : PyValue) :
    Writes (dumps interpreter depth value) ↔ Renderable interpreter depth value := by
  induction depth generalizing value with
  | zero =>
      cases value with
      | list items => simp [dumps, Renderable, writes_error]
      | dict members => simp [dumps, Renderable, writes_error]
      | _ => exact leaf_writes interpreter 0 _ (by simp) (by simp)
  | succ depth ih =>
      cases value with
      | list items => simp only [dumps, Renderable, bracket_writes, ih]
      | dict members => simp only [dumps, Renderable, bracket_writes, member_writes, key_writes, ih]
      | _ => exact leaf_writes interpreter (depth + 1) _ (by simp) (by simp)

theorem encode_ok (text : PyStr) (encodable : Encodable text) :
    encode text = .ok (utf8 (text.map (fun p => Char.ofNat p.val))) := by
  have clean : text.any isSurrogate = false := List.any_eq_false.mpr (fun p member => by simp [encodable p member])
  rw [encode, clean]
  rfl

theorem encode_points (text : Str) : encode (points text) = .ok (utf8 text) := by
  rw [encode_ok _ (points_encodable text), points, List.map_map]
  exact congrArg (fun chars => Except.ok (utf8 chars)) ((List.map_congr_left (fun c _ => Char.ofNat_toNat c)).trans (List.map_id _))

theorem encode_error (text : PyStr) (lone : ¬ Encodable text) : encode text = .error .unicodeEncodeError := by
  have found : text.any isSurrogate = true := by
    simpa [Encodable] using lone
  rw [encode, if_pos found]

theorem render_ok_iff (content : PyValue) :
    (∃ body, render interpreter content = .ok body) ↔ Renderable interpreter interpreter.nesting content := by
  rw [← dumps_writes, render, Writes]
  cases dumps interpreter interpreter.nesting content with
  | error raised => simp [Except.bind]
  | ok text =>
      by_cases encodable : Encodable text
      · simp [Except.bind, encode_ok text encodable, encodable]
      · simp [Except.bind, encode_error text encodable, encodable]

theorem json_response_ok (statusCode : Nat) (content : PyValue) (response : RenderedResponse interpreter)
    (built : jsonResponse interpreter statusCode content = .ok response) :
    response.statusCode = statusCode ∧ response.content = content := by
  unfold jsonResponse at built
  split at built
  next => cases built
  next =>
      cases built
      exact ⟨rfl, rfl⟩

theorem json_response_built_iff (statusCode : Nat) (content : PyValue) :
    (∃ response, jsonResponse interpreter statusCode content = .ok response) ↔
      Renderable interpreter interpreter.nesting content := by
  rw [← render_ok_iff]
  constructor
  · rintro ⟨response, built⟩
    have same := (json_response_ok interpreter statusCode content response built).2
    exact ⟨response.body, same ▸ response.rendered⟩
  · rintro ⟨body, rendered⟩
    unfold jsonResponse
    split
    next raised failed =>
        rw [rendered] at failed
        cases failed
    next => exact ⟨_, rfl⟩

end Rendering

end Chassis.JsonRender
