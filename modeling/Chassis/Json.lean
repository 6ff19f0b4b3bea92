import Chassis.Text
import Mathlib.Data.Rat.Defs

set_option autoImplicit false

namespace Chassis

-- A JSON value as json.loads and JSONResponse see it; an object keeps its
-- members in order, with distinct names.
inductive Json where
  | null
  | bool (value : Bool)
  | int (value : Int)
  | float (value : Rat)
  | str (text : Str)
  | array (items : List Json)
  | object (members : List (Str × Json))

namespace Json

-- dict.get on an object.
def member (name : Str) : List (Str × Json) → Option Json
  | [] => none
  | (other, value) :: rest => if other = name then some value else member name rest

def text (literal : String) : Json := .str literal.toList

end Json

end Chassis
