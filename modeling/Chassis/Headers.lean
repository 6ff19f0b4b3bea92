import Chassis.Asgi
import Chassis.Dict

set_option autoImplicit false

namespace Chassis.Headers

open Asgi Text

-- The values of the lines with that name, in whatever case it is written.
def named (name : Bytes) (headers : RawHeaders) : List Bytes :=
  (headers.filter (fun line => lower line.1 = lower name)).map Prod.snd

-- {key.lower(): value for key, value in headers}
def lowered (headers : RawHeaders) : Dict Bytes Bytes :=
  headers.foldl (fun dict line => dict.set (lower line.1) line.2) Dict.empty

@[simp] theorem named_nil (name : Bytes) : named name [] = [] := rfl

theorem named_append (name : Bytes) (before after : RawHeaders) :
    named name (before ++ after) = named name before ++ named name after := by
  simp [named]

theorem named_cons (name : Bytes) (line : Bytes × Bytes) (rest : RawHeaders) :
    named name (line :: rest) = if lower line.1 = lower name then line.2 :: named name rest else named name rest := by
  by_cases same : lower line.1 = lower name <;> simp [named, same]

theorem lowered_get (headers : RawHeaders) (name : Bytes) :
    (lowered headers).get (lower name) = (named name headers).getLast? := by
  induction headers using List.reverseRecOn with
  | nil => rfl
  | append_singleton before line ih =>
      have split : lowered (before ++ [line]) = (lowered before).set (lower line.1) line.2 := by
        simp [lowered]
      rw [split, Dict.get_set, named_append, named_cons]
      by_cases same : lower line.1 = lower name
      · rw [if_pos same.symm, if_pos same]
        simp
      · rw [if_neg (Ne.symm same), if_neg same, ih]
        simp

end Chassis.Headers
