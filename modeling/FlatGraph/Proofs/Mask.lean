import FlatGraph.Proofs.Align

/-!
Rounding up by masks on machine words is rounding up by division, and to have
no low bit is to be divisible, for every power of two.
-/

namespace FlatGraph

theorem and_not_low_toNat (word : UInt64) {low : UInt64} {exponent : Nat}
    (bits : low.toNat = 2 ^ exponent - 1) :
    (word &&& ~~~low).toNat = word.toNat / 2 ^ exponent * 2 ^ exponent := by
  have small : low.toNat < 2 ^ 64 := low.toNat_lt
  have flipped : (~~~low).toNat = 2 ^ 64 - (low.toNat + 1) := by
    rw [UInt64.toNat_not, UInt64.size]
    omega
  rw [UInt64.toNat_and, flipped]
  apply Nat.eq_of_testBit_eq
  intro index
  rw [Nat.testBit_and, Nat.testBit_two_pow_sub_succ small, bits,
    Nat.testBit_two_pow_sub_one, Nat.testBit_mul_two_pow,
    Nat.testBit_div_two_pow]
  by_cases cleared : index < exponent
  · simp [cleared]
  · have above : exponent ≤ index := Nat.not_lt.mp cleared
    rw [Nat.sub_add_cancel above]
    by_cases inside : index < 64
    · simp [inside, cleared, above]
    · have beyond : word.toNat.testBit index = false :=
        Nat.testBit_lt_two_pow (Nat.lt_of_lt_of_le word.toNat_lt
          (Nat.pow_le_pow_right (by decide) (Nat.not_lt.mp inside)))
      simp [beyond]

/-- Where the sum is one more than the largest word, it wraps to zero, and
taking one off wraps it back. -/
theorem pred_ofNat_toNat {value : Nat} (positive : 0 < value)
    (fits : value ≤ wordLimit) :
    (UInt64.ofNat value - 1).toNat = value - 1 := by
  have limit : wordLimit = 2 ^ 64 := rfl
  rw [UInt64.toNat_sub, UInt64.toNat_ofNat', UInt64.toNat_one]
  omega

theorem maskUp_toNat {position alignment : Nat}
    (power : isPowerOfTwo alignment = true)
    (fits : position + alignment ≤ wordLimit) :
    (maskUp (UInt64.ofNat position) (UInt64.ofNat alignment)).toNat =
      roundUp position alignment := by
  obtain ⟨exponent, rfl⟩ := isPowerOfTwo_iff.mp power
  have positive := Nat.two_pow_pos exponent
  have low := pred_ofNat_toNat positive (by omega)
  rw [maskUp, and_not_low_toNat _ low, ← UInt64.ofNat_add,
    pred_ofNat_toNat (by omega) fits, roundUp]

variable {position alignment : UInt64}

section Power

variable (power : isPowerOfTwo alignment.toNat = true)

include power

theorem toNat_maskUp
    (fits : position.toNat + alignment.toNat ≤ wordLimit) :
    (maskUp position alignment).toNat =
      roundUp position.toNat alignment.toNat := by
  have rounded := maskUp_toNat power fits
  rwa [UInt64.ofNat_toNat, UInt64.ofNat_toNat] at rounded

theorem exists_low :
    ∃ exponent, alignment.toNat = 2 ^ exponent ∧
      (alignment - 1).toNat = 2 ^ exponent - 1 := by
  obtain ⟨exponent, same⟩ := isPowerOfTwo_iff.mp power
  have low := pred_ofNat_toNat (isPowerOfTwo_pos power)
    (Nat.le_of_lt alignment.toNat_lt)
  rw [UInt64.ofNat_toNat, same] at low
  exact ⟨exponent, same, low⟩

theorem maskAligned_iff :
    maskAligned position alignment = true ↔
      alignment.toNat ∣ position.toNat := by
  obtain ⟨exponent, same, low⟩ := exists_low power
  have remainder : (position &&& (alignment - 1)).toNat =
      position.toNat % 2 ^ exponent := by
    rw [UInt64.toNat_and, low, Nat.and_two_pow_sub_one_eq_mod]
  rw [maskAligned, beq_iff_eq, ← UInt64.toNat_inj, remainder, same]
  exact (Nat.dvd_iff_mod_eq_zero ..).symm

/-- Also where the sum wraps: then the multiple is zero. -/
theorem dvd_maskUp :
    alignment.toNat ∣ (maskUp position alignment).toNat := by
  obtain ⟨exponent, same, low⟩ := exists_low power
  rw [maskUp, and_not_low_toNat _ low, same]
  exact Nat.dvd_mul_left _ _

theorem add_le_wordLimit_of_dvd
    (aligned : alignment.toNat ∣ position.toNat) :
    position.toNat + alignment.toNat ≤ wordLimit := by
  by_contra short
  have divides := isPowerOfTwo_dvd power isPowerOfTwo_wordLimit
    (Nat.le_of_lt alignment.toNat_lt)
  have beyond : wordLimit ≤ position.toNat :=
    Nat.le_of_lt_add_of_dvd (Nat.lt_of_not_le short) divides aligned
  exact Nat.not_lt_of_le beyond position.toNat_lt

theorem maskUp_eq_self_iff :
    maskUp position alignment = position ↔
      alignment.toNat ∣ position.toNat := by
  constructor
  · intro fixed
    have aligned : alignment.toNat ∣ (maskUp position alignment).toNat :=
      dvd_maskUp power
    rwa [fixed] at aligned
  · intro aligned
    apply UInt64.toNat_inj.mp
    rw [toNat_maskUp power (add_le_wordLimit_of_dvd power aligned)]
    exact roundUp_of_dvd (isPowerOfTwo_pos power) aligned

end Power

structure RoundsByMask (alignment : UInt64) : Prop where
  arithmetic : ∀ position : UInt64,
    position.toNat + alignment.toNat - 1 < wordLimit →
      (maskUp position alignment).toNat =
        roundUp position.toNat alignment.toNat
  least : ∀ position : UInt64,
    position.toNat + alignment.toNat - 1 < wordLimit →
      IsLeast {bound | alignment.toNat ∣ bound ∧ position.toNat ≤ bound}
        (maskUp position alignment).toNat
  near : ∀ position : UInt64,
    position.toNat + alignment.toNat - 1 < wordLimit →
      (maskUp position alignment).toNat <
        position.toNat + alignment.toNat
  monotone : ∀ lower upper : UInt64, lower ≤ upper →
    upper.toNat + alignment.toNat - 1 < wordLimit →
      maskUp lower alignment ≤ maskUp upper alignment
  idempotent : ∀ position, maskUp (maskUp position alignment) alignment =
    maskUp position alignment
  aligned_iff : ∀ position, maskAligned position alignment = true ↔
    alignment.toNat ∣ position.toNat
  fixed_iff : ∀ position, maskUp position alignment = position ↔
    maskAligned position alignment = true
  /-- No position of a buffer is rounded past the largest capacity, and not
  even the sum wraps. -/
  within : alignment.toNat ≤ storageAlignment →
    ∀ position : UInt64, position.toNat ≤ maxCapacity →
      position.toNat + alignment.toNat < wordLimit ∧
        (maskUp position alignment).toNat ≤ maxCapacity

/-- Arithmetic wraps, as it does where overflow is not checked for. Where
position and alignment add up to the first number that is no word, the sum is
zero and taking one off wraps it back: the last multiple is still reached.
There, and nowhere else within the bounds, checked arithmetic ends with
`wrapped` (`Checked.roundUp`), and callers are asked not to go there. -/
theorem masks_round (power : isPowerOfTwo alignment.toNat = true) :
    RoundsByMask alignment where
  arithmetic position fits := toNat_maskUp power (by omega)
  least position fits := by
    rw [toNat_maskUp power (by omega)]
    exact isLeast_roundUp (isPowerOfTwo_pos power) position.toNat
  near position fits := by
    rw [toNat_maskUp power (by omega)]
    exact roundUp_lt (isPowerOfTwo_pos power) position.toNat
  monotone lower upper ordered fits := by
    rw [UInt64.le_iff_toNat_le] at ordered ⊢
    rw [toNat_maskUp power (by omega), toNat_maskUp power (by omega)]
    exact roundUp_mono (isPowerOfTwo_pos power) ordered
  idempotent position := (maskUp_eq_self_iff power).mpr (dvd_maskUp power)
  aligned_iff position := maskAligned_iff power
  fixed_iff position :=
    (maskUp_eq_self_iff power).trans (maskAligned_iff power).symm
  within fine position below := by
    have fits : position.toNat + alignment.toNat < wordLimit := by
      unfold storageAlignment at fine
      unfold maxCapacity at below
      unfold wordLimit
      omega
    rw [toNat_maskUp power (Nat.le_of_lt fits)]
    exact ⟨fits, roundUp_le_maxCapacity ⟨power, fine⟩ below⟩

/-- From the last multiple of sixteen on, where the sum is the first number
that is no word, and from seven bytes below the largest capacity. -/
theorem masks_round_sample :
    isPowerOfTwo (16 : UInt64).toNat = true ∧
      (18446744073709551600 : UInt64).toNat + (16 : UInt64).toNat =
        wordLimit ∧
      RoundsByMask 16 ∧
      maskUp 18446744073709551600 16 = 18446744073709551600 ∧
      (maskUp 9223372036854775785 16).toNat ≤ maxCapacity := by
  have power : isPowerOfTwo (16 : UInt64).toNat = true :=
    isPowerOfTwo_storageAlignment
  have rounds := masks_round power
  have aligned := (rounds.aligned_iff 18446744073709551600).mpr (by decide)
  exact ⟨power, rfl, rounds, (rounds.fixed_iff _).mpr aligned,
    (rounds.within (by decide) _ (by decide)).2⟩

end FlatGraph
