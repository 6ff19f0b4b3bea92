import Mathlib.Data.Nat.Bitwise
import Mathlib.Tactic.Ring

set_option autoImplicit false

namespace Chassis.Prefixes

-- _ip_int_from_prefix: ones, then zeros.
def maskInt (width length : Nat) : Nat := 2 ^ width - 2 ^ (width - length)

def mask (width length : Nat) : BitVec width := BitVec.ofNat width (maskInt width length)

structure Block (width : Nat) where
  address : BitVec width
  length : Nat
  short : length ≤ width
deriving DecidableEq

variable {width : Nat}

def Block.suffix (block : Block width) : Nat := width - block.length

def Block.Covers (block : Block width) (word : BitVec width) : Prop :=
  block.address >>> block.suffix = word >>> block.suffix

instance (block : Block width) (word : BitVec width) : Decidable (block.Covers word) :=
  inferInstanceAs (Decidable (_ = _))

def Block.mask (block : Block width) : BitVec width := Prefixes.mask width block.length

def Block.base (block : Block width) : BitVec width := block.address &&& block.mask

theorem mask_int_shift (width length : Nat) (short : length ≤ width) :
    maskInt width length = (2 ^ length - 1) <<< (width - length) := by
  rw [maskInt, Nat.shiftLeft_eq, Nat.sub_mul, ← pow_add, Nat.add_sub_cancel' short, one_mul]

theorem mask_int_bit (width length index : Nat) (short : length ≤ width) :
    (maskInt width length).testBit index = (decide (width - length ≤ index) && decide (index < width)) := by
  rw [mask_int_shift width length short, Nat.testBit_shiftLeft, Nat.testBit_two_pow_sub_one]
  by_cases low : width - length ≤ index
  · have same : index - (width - length) < length ↔ index < width := by omega
    simp [low, same]
  · simp [low]

theorem mask_int_lt (width length : Nat) : maskInt width length < 2 ^ width :=
  Nat.sub_lt (Nat.two_pow_pos width) (Nat.two_pow_pos (width - length))

theorem mask_int_injective (width first second : Nat) (firstShort : first ≤ width) (secondShort : second ≤ width)
    (same : maskInt width first = maskInt width second) : first = second := by
  have firstLow : 2 ^ (width - first) ≤ 2 ^ width := Nat.pow_le_pow_right (by decide) (Nat.sub_le ..)
  have secondLow : 2 ^ (width - second) ≤ 2 ^ width := Nat.pow_le_pow_right (by decide) (Nat.sub_le ..)
  have powers : 2 ^ (width - first) = 2 ^ (width - second) := by
    unfold maskInt at same
    omega
  have suffixes := Nat.pow_right_injective (by decide) powers
  omega

-- Zeros, then ones.
def hostmaskInt (width length : Nat) : Nat := 2 ^ (width - length) - 1

theorem hostmask_complement (width length : Nat) : 2 ^ width - 1 - hostmaskInt width length = maskInt width length := by
  have low : 2 ^ (width - length) ≤ 2 ^ width := Nat.pow_le_pow_right (by decide) (Nat.sub_le ..)
  have positive := Nat.two_pow_pos (width - length)
  unfold hostmaskInt maskInt
  omega

theorem hostmask_not_mask (width length other : Nat) (positive : 0 < length) (short : length < width) (within : other ≤ width) :
    maskInt width other ≠ hostmaskInt width length := by
  intro same
  have low := mask_int_bit width other 0 within
  rw [same, hostmaskInt, Nat.testBit_two_pow_sub_one] at low
  have full : other = width := by
    have ones : decide (0 < width - length) = true := by simpa using short
    rw [ones] at low
    simp at low
    omega
  have top := mask_int_bit width other (width - length) within
  rw [same, hostmaskInt, Nat.testBit_two_pow_sub_one, full] at top
  simp at top
  omega

theorem mask_bit (length index : Nat) (short : length ≤ width) :
    (mask width length).getLsbD index = (decide (width - length ≤ index) && decide (index < width)) := by
  rw [mask, BitVec.getLsbD_ofNat, mask_int_bit width length index short]
  cases decide (index < width) <;> simp

theorem covers_bits (block : Block width) (word : BitVec width) :
    block.Covers word ↔ ∀ index, block.suffix ≤ index → block.address.getLsbD index = word.getLsbD index := by
  constructor
  · intro covered index high
    have bit := congrArg (fun shifted => shifted.getLsbD (index - block.suffix)) covered
    simpa [BitVec.getLsbD_ushiftRight, Nat.add_sub_cancel' high] using bit
  · intro bits
    apply BitVec.eq_of_getLsbD_eq
    intro index _
    rw [BitVec.getLsbD_ushiftRight, BitVec.getLsbD_ushiftRight]
    exact bits _ (Nat.le_add_right _ _)

theorem covers_mask (block : Block width) (word : BitVec width) : word &&& block.mask = block.base ↔ block.Covers word := by
  rw [covers_bits]
  constructor
  · intro same index high
    have bit := congrArg (fun masked => masked.getLsbD index) same
    by_cases inside : index < width
    · simp only [Block.base, Block.mask, BitVec.getLsbD_and, mask_bit _ _ block.short] at bit
      have ones : (decide (width - block.length ≤ index) && decide (index < width)) = true := by
        simpa [Block.suffix, inside] using high
      rw [ones, Bool.and_true, Bool.and_true] at bit
      exact bit.symm
    · rw [BitVec.getLsbD_of_ge _ _ (Nat.le_of_not_lt inside), BitVec.getLsbD_of_ge _ _ (Nat.le_of_not_lt inside)]
  · intro bits
    apply BitVec.eq_of_getLsbD_eq
    intro index _
    simp only [Block.base, Block.mask, BitVec.getLsbD_and, mask_bit _ _ block.short]
    by_cases high : width - block.length ≤ index
    · rw [bits index high]
    · simp [high]

theorem covers_own (block : Block width) : block.Covers block.address := rfl

theorem covers_length (first second : Block width) (same : ∀ word, first.Covers word ↔ second.Covers word) :
    second.length ≤ first.length := by
  by_contra longer
  have flipped : first.Covers (first.address ^^^ BitVec.twoPow width second.suffix) := by
    rw [covers_bits]
    intro index high
    have apart : second.suffix ≠ index := by
      have short := second.short
      unfold Block.suffix at high ⊢
      omega
    simp [BitVec.getLsbD_xor, BitVec.getLsbD_twoPow, apart]
  have own := (covers_bits second _).mp ((same _).mp (covers_own first)) second.suffix (Nat.le_refl _)
  have other := (covers_bits second _).mp ((same _).mp flipped) second.suffix (Nat.le_refl _)
  have inside : second.suffix < width := by
    have short := second.short
    unfold Block.suffix
    omega
  rw [own, BitVec.getLsbD_xor, BitVec.getLsbD_twoPow] at other
  simp [inside] at other

theorem same_base (first second : Block width) (lengths : first.length = second.length)
    (covered : first.Covers second.address) : first.base = second.base := by
  have masked := (covers_mask first second.address).mpr covered
  rw [← masked, Block.base, Block.mask, Block.mask, lengths]

theorem same_words_iff (first second : Block width) :
    (∀ word, first.Covers word ↔ second.Covers word) ↔ first.base = second.base ∧ first.mask = second.mask := by
  constructor
  · intro same
    have lengths := Nat.le_antisymm (covers_length second first (fun word => (same word).symm)) (covers_length first second same)
    exact ⟨same_base first second lengths ((same _).mpr (covers_own second)), by rw [Block.mask, Block.mask, lengths]⟩
  · rintro ⟨bases, masks⟩ word
    rw [← covers_mask, ← covers_mask, bases, masks]

end Chassis.Prefixes
