import Chassis.Text

set_option autoImplicit false

namespace Chassis.Routing

-- starlette.convertors: which texts each kind of path parameter takes.
inductive Convertor where
  | str
  | path
  | int
  | float
  | uuid
deriving DecidableEq

def isHexDigit (c : Char) : Bool := c.isDigit || ('a' ≤ c && c ≤ 'f') || ('A' ≤ c && c ≤ 'F')

def digits (text : Str) : Bool := text ≠ [] && text.all Char.isDigit

def acceptsFloat (text : Str) : Bool :=
  digits (text.takeWhile Char.isDigit) &&
    match text.dropWhile Char.isDigit with
    | [] => true
    | c :: fraction => c = '.' && digits fraction

-- Groups of hexadecimal digits of these lengths, with or without a dash in between.
def acceptsGroups : List Nat → Str → Bool
  | [], text => text = []
  | [last], text => text.length = last && text.all isHexDigit
  | group :: rest, text =>
      let later := text.drop group
      (text.take group).length = group && (text.take group).all isHexDigit &&
        acceptsGroups rest (if later.head? = some '-' then later.tail else later)

def Convertor.accepts : Convertor → Str → Bool
  | .str, text => text ≠ [] && text.all (fun c => c ≠ '/')
  | .path, text => text.all (fun c => c ≠ '\n')
  | .int, text => digits text
  | .float, text => acceptsFloat text
  | .uuid, text => acceptsGroups [8, 4, 4, 4, 12] text

def convertorTypes : List (Str × Convertor) :=
  [("str".toList, .str), ("path".toList, .path), ("int".toList, .int), ("float".toList, .float), ("uuid".toList, .uuid)]

inductive RawPiece where
  | char (c : Char)
  | param (name convertor : Str)
deriving DecidableEq

inductive Piece where
  | char (c : Char)
  | param (name : Str) (convertor : Convertor)
deriving DecidableEq

def isNameStart (c : Char) : Bool := c.isAlpha || c = '_'

def isNameChar (c : Char) : Bool := isNameStart c || c.isDigit

-- [a-zA-Z_][a-zA-Z0-9_]* at the start of the text, with what follows it.
def identifier (text : Str) : Option (Str × Str) :=
  match text with
  | [] => none
  | c :: _ => if isNameStart c then some (text.takeWhile isNameChar, text.dropWhile isNameChar) else none

-- PARAM_REGEX after its opening brace: the two names, and how many characters
-- it takes.
def parameter (text : Str) : Option (Str × Str × Nat) :=
  match identifier text with
  | none => none
  | some (name, rest) =>
      if rest.head? = some '\x7d' then some (name, "str".toList, name.length + 1)
      else if rest.head? = some ':' then
        match identifier rest.tail with
        | none => none
        | some (convertor, after) =>
            if after.head? = some '\x7d' then some (name, convertor, name.length + 1 + convertor.length + 1) else none
      else none

-- PARAM_REGEX.finditer, with the characters between its matches; the number
-- counts the characters that still belong to the match before.
def pieces : Nat → Str → List RawPiece
  | _, [] => []
  | skip + 1, _ :: rest => pieces skip rest
  | 0, c :: rest =>
      if c = '\x7b' then
        match parameter rest with
        | some (name, convertor, length) => .param name convertor :: pieces length rest
        | none => .char c :: pieces 0 rest
      else .char c :: pieces 0 rest

def RawPiece.resolve : RawPiece → Option Piece
  | .char c => some (.char c)
  | .param name convertor => (convertorTypes.lookup convertor).map (.param name)

def RawPiece.paramName : RawPiece → Option Str
  | .char _ => none
  | .param name _ => some name

-- starlette.routing.compile_path, none where it raises: an unknown convertor,
-- or one name twice.
def compilePath (path : Str) : Option (List Piece) :=
  if ((pieces 0 path).filterMap RawPiece.paramName).Nodup then (pieces 0 path).mapM RawPiece.resolve else none

def fullMatch : List Piece → Str → Bool
  | [], text => text = []
  | .char c :: rest, text => text.head? = some c && fullMatch rest text.tail
  | .param _ convertor :: rest, text =>
      (List.range (text.length + 1)).any (fun n => convertor.accepts (text.take n) && fullMatch rest (text.drop n))

-- The pattern ends in a dollar sign, which lets one newline follow.
def pathMatches (pattern : List Piece) (text : Str) : Bool :=
  fullMatch pattern text || (text.getLast? = some '\n' && fullMatch pattern text.dropLast)

theorem literal_match_iff (literal text : Str) : fullMatch (literal.map .char) text = true ↔ text = literal := by
  induction literal generalizing text with
  | nil => simp [fullMatch]
  | cons c rest ih =>
      rw [List.map_cons, fullMatch, Bool.and_eq_true, ih, decide_eq_true_eq]
      cases text with
      | nil => simp
      | cons first more => simp

theorem literal_path_matches_iff (literal text : Str) :
    pathMatches (literal.map .char) text = true ↔ text = literal ∨ text = literal ++ ['\n'] := by
  rw [pathMatches, Bool.or_eq_true, Bool.and_eq_true, literal_match_iff, literal_match_iff, decide_eq_true_eq]
  constructor
  · rintro (same | ⟨last, same⟩)
    · exact .inl same
    · refine .inr ?_
      rw [← same]
      exact (List.dropLast_append_getLast? _ last).symm
  · rintro (same | same)
    · exact .inl same
    · exact .inr (by simp [same])

theorem pieces_literal (literal : Str) (braceFree : '\x7b' ∉ literal) :
    pieces 0 literal = literal.map RawPiece.char := by
  induction literal with
  | nil => rfl
  | cons c rest ih =>
      have other : c ≠ '\x7b' := fun same => braceFree (by simp [same])
      rw [pieces, if_neg other, ih (fun member => braceFree (by simp [member])), List.map_cons]

theorem compile_literal (literal : Str) (braceFree : '\x7b' ∉ literal) :
    compilePath literal = some (literal.map .char) := by
  have unnamed : (literal.map RawPiece.char).filterMap RawPiece.paramName = [] := by
    simp [List.filterMap_eq_nil_iff, RawPiece.paramName]
  have resolved : (literal.map RawPiece.char).mapM RawPiece.resolve = some (literal.map Piece.char) := by
    clear braceFree unnamed
    induction literal with
    | nil => rfl
    | cons c rest ih =>
        rw [List.map_cons, List.mapM_cons, ih]
        rfl
  rw [compilePath, pieces_literal literal braceFree, unnamed, if_pos List.nodup_nil, resolved]

end Chassis.Routing
