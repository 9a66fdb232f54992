import FlatGraph.Word

/-!
Rounding positions up to an alignment, by arithmetic on numbers and by masks
on machine words, and the limits that alignments put on a buffer.
-/

namespace FlatGraph

/-- Alignment of the memory behind a buffer, and the largest alignment of a
value that can be placed in one. -/
def storageAlignment : Nat := 16

def leastAlignment : Nat := 8

def roundUp (position alignment : Nat) : Nat :=
  (position + alignment - 1) / alignment * alignment

def placementAlignment (alignment : Nat) : Nat :=
  max alignment leastAlignment

def ceilPowerOfTwo (value : Nat) : Nat :=
  if value ≤ 1 then 1 else 1 <<< ((value - 1).log2 + 1)

def isPowerOfTwo (value : Nat) : Bool :=
  value == ceilPowerOfTwo value

/-- Rounding a machine word up to a power of two by clearing its low bits. The
sum and the difference wrap, as they do where overflow is not checked for; with
checks, a sum that no word holds is no result but the end of the program, and
callers are asked to form none. -/
def maskUp (position alignment : UInt64) : UInt64 :=
  (position + alignment - 1) &&& ~~~(alignment - 1)

def maskAligned (position alignment : UInt64) : Bool :=
  position &&& (alignment - 1) == 0

inductive AlignmentFault where
  | zero
  | notPowerOfTwo
  | tooLarge
  deriving DecidableEq, Repr

def AlignmentFault.message : AlignmentFault → String
  | .zero => "`alignment` cannot be 0"
  | .notPowerOfTwo => "`alignment` must be a power of 2"
  | .tooLarge => "`alignment` must be less than isize::MAX"

def signedMax : Nat := 1 <<< 63 - 1

/-- The largest size that still fits a signed word when rounded up to the
alignment. -/
def capacityLimit (alignment : Nat) : Except AlignmentFault Nat :=
  if alignment = 0 then .error .zero
  else if !isPowerOfTwo alignment then .error .notPowerOfTwo
  else if signedMax ≤ alignment then .error .tooLarge
  else .ok (signedMax - (alignment - 1))

def maxCapacity : Nat := 1 <<< 63 - 16

theorem capacityLimit_storageAlignment :
    capacityLimit storageAlignment = .ok maxCapacity := by
  have power : isPowerOfTwo 16 = true := by decide +kernel
  simp [capacityLimit, storageAlignment, power, signedMax, maxCapacity]

theorem dvd_roundUp (position alignment : Nat) :
    alignment ∣ roundUp position alignment :=
  Nat.dvd_mul_left _ _

theorem le_roundUp {alignment : Nat} (positive : 0 < alignment)
    (position : Nat) : position ≤ roundUp position alignment := by
  have division := Nat.div_add_mod (position + alignment - 1) alignment
  have remainder := Nat.mod_lt (position + alignment - 1) positive
  rw [Nat.mul_comm] at division
  unfold roundUp
  omega

theorem roundUp_lt {alignment : Nat} (positive : 0 < alignment)
    (position : Nat) : roundUp position alignment < position + alignment := by
  have bound := Nat.div_mul_le_self (position + alignment - 1) alignment
  unfold roundUp
  omega

theorem roundUp_of_dvd {position alignment : Nat} (positive : 0 < alignment)
    (aligned : alignment ∣ position) : roundUp position alignment = position := by
  obtain ⟨quotient, rfl⟩ := aligned
  have shifted : alignment * quotient + alignment - 1 =
      (alignment - 1) + alignment * quotient := by omega
  rw [roundUp, shifted, Nat.add_mul_div_left _ _ positive,
    Nat.div_eq_of_lt (by omega), Nat.zero_add, Nat.mul_comm]

end FlatGraph
