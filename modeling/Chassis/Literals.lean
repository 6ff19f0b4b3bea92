import Mathlib.Data.List.Basic

set_option autoImplicit false

namespace Chassis.Literals

def bytes (s : String) : List UInt8 := s.toByteArray.data.toList

-- The characters of a literal, without the decoding of UTF-8 where every byte
-- is ASCII: the kernel is slow at it.
def bytewise (s : String) : List Char :=
  if (bytes s).all (fun byte => byte.toNat < 128) then (bytes s).map (fun byte => Char.ofNat byte.toNat) else s.toList

theorem bytes_of_list (chars : List Char) : bytes (String.ofList chars) = chars.flatMap String.utf8EncodeChar :=
  List.toList_data_toByteArray

theorem encoded_ascii (c : Char) (ascii : ∀ byte ∈ String.utf8EncodeChar c, byte.toNat < 128) :
    (String.utf8EncodeChar c).map (fun byte => Char.ofNat byte.toNat) = [c] := by
  unfold String.utf8EncodeChar at ascii ⊢
  dsimp only at ascii ⊢
  by_cases single : c.val.toNat ≤ 0x7f
  · rw [if_pos single]
    have same : (UInt8.ofNat c.val.toNat).toNat = c.toNat := Nat.mod_eq_of_lt (by omega)
    rw [List.map_singleton, same, Char.ofNat_toNat]
  · rw [if_neg single] at ascii
    exfalso
    -- The first byte of a longer encoding has its high bit set.
    split at ascii
    · have first := ascii _ List.mem_cons_self
      rw [UInt8.toNat_ofNat'] at first
      omega
    · split at ascii
      · have first := ascii _ List.mem_cons_self
        rw [UInt8.toNat_ofNat'] at first
        omega
      · have first := ascii _ List.mem_cons_self
        rw [UInt8.toNat_ofNat'] at first
        omega

theorem decoded_ascii (chars : List Char) (ascii : ∀ byte ∈ chars.flatMap String.utf8EncodeChar, byte.toNat < 128) :
    (chars.flatMap String.utf8EncodeChar).map (fun byte => Char.ofNat byte.toNat) = chars := by
  induction chars with
  | nil => rfl
  | cons c rest ih =>
      rw [List.flatMap_cons] at ascii ⊢
      obtain ⟨own, later⟩ := List.forall_mem_append.mp ascii
      rw [List.map_append, encoded_ascii c own, ih later, List.singleton_append]

theorem to_list_bytewise : String.toList = bytewise := by
  funext s
  unfold bytewise
  by_cases ascii : (bytes s).all (fun byte => byte.toNat < 128) = true
  · rw [if_pos ascii]
    have spelled : bytes s = s.toList.flatMap String.utf8EncodeChar := by
      rw [← bytes_of_list, String.ofList_toList]
    rw [spelled] at ascii ⊢
    refine (decoded_ascii s.toList ?_).symm
    exact fun byte listed => of_decide_eq_true (List.all_eq_true.mp ascii byte listed)
  · rw [if_neg ascii]

end Chassis.Literals
