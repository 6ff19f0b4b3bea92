import Mathlib.Data.List.Basic

set_option autoImplicit false

namespace Chassis.Layers

abbrev Layer (α β : Type) := α → Option β

variable {α β : Type}

def above (base top : Layer α β) : Layer α β := fun name => (top name).or (base name)

def stack (base : Layer α β) (layers : List (Layer α β)) : Layer α β := layers.foldl above base

def Silent (layers : List (Layer α β)) (name : α) : Prop := ∀ layer ∈ layers, layer name = none

theorem stack_append (base : Layer α β) (first second : List (Layer α β)) :
    stack base (first ++ second) = stack (stack base first) second :=
  List.foldl_append

theorem stack_silent (base : Layer α β) (layers : List (Layer α β)) (name : α) (silent : Silent layers name) :
    stack base layers name = base name := by
  induction layers generalizing base with
  | nil => rfl
  | cons layer rest ih =>
      obtain ⟨none, later⟩ := List.forall_mem_cons.mp silent
      have covered := ih (above base layer) later
      rw [above, none] at covered
      exact covered

end Chassis.Layers
