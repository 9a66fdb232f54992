import FlatGraph.Align
import Mathlib.Algebra.Group.Nat.Defs
import Mathlib.Order.Bounds.Basic

/-!
Powers of two as alignments and capacities, and the padding in front of an
aligned block: the least number of bytes that brings a position to a multiple
of an alignment. No position that a buffer may reach is rounded up past the
largest capacity.
-/

namespace FlatGraph

theorem one_shiftLeft (exponent : Nat) : 1 <<< exponent = 2 ^ exponent :=
  Nat.one_shiftLeft exponent

theorem exists_ceilPowerOfTwo (value : Nat) :
    ∃ exponent, ceilPowerOfTwo value = 2 ^ exponent := by
  unfold ceilPowerOfTwo
  split
  · exact ⟨0, rfl⟩
  · exact ⟨(value - 1).log2 + 1, one_shiftLeft _⟩

theorem le_ceilPowerOfTwo (value : Nat) : value ≤ ceilPowerOfTwo value := by
  unfold ceilPowerOfTwo
  split
  · assumption
  · have below : value - 1 < 2 ^ ((value - 1).log2 + 1) := Nat.lt_log2_self
    rw [one_shiftLeft]
    omega

theorem ceilPowerOfTwo_le {value exponent : Nat}
    (bounded : value ≤ 2 ^ exponent) :
    ceilPowerOfTwo value ≤ 2 ^ exponent := by
  unfold ceilPowerOfTwo
  split
  · exact Nat.one_le_two_pow
  · rename_i large
    have nonzero : value - 1 ≠ 0 := by omega
    have shorter : (value - 1).log2 < exponent :=
      (Nat.log2_lt nonzero).mpr (by omega)
    rw [one_shiftLeft]
    exact Nat.pow_le_pow_right (by decide) shorter

theorem isPowerOfTwo_iff {value : Nat} :
    isPowerOfTwo value = true ↔ ∃ exponent, value = 2 ^ exponent := by
  rw [isPowerOfTwo, beq_iff_eq]
  constructor
  · intro fixed
    obtain ⟨exponent, power⟩ := exists_ceilPowerOfTwo value
    exact ⟨exponent, fixed.trans power⟩
  · rintro ⟨exponent, rfl⟩
    exact Nat.le_antisymm (le_ceilPowerOfTwo _)
      (ceilPowerOfTwo_le (Nat.le_refl _))

theorem isPowerOfTwo_pos {value : Nat} (power : isPowerOfTwo value = true) :
    0 < value := by
  obtain ⟨exponent, rfl⟩ := isPowerOfTwo_iff.mp power
  exact Nat.two_pow_pos exponent

theorem isPowerOfTwo_ceilPowerOfTwo (value : Nat) :
    isPowerOfTwo (ceilPowerOfTwo value) = true :=
  isPowerOfTwo_iff.mpr (exists_ceilPowerOfTwo value)

section Pair

variable {left right : Nat}

theorem isPowerOfTwo_dvd (power : isPowerOfTwo left = true)
    (power' : isPowerOfTwo right = true) (below : left ≤ right) :
    left ∣ right := by
  obtain ⟨exponent, rfl⟩ := isPowerOfTwo_iff.mp power
  obtain ⟨exponent', rfl⟩ := isPowerOfTwo_iff.mp power'
  exact Nat.pow_dvd_pow 2 ((Nat.pow_le_pow_iff_right (by decide)).mp below)

theorem isPowerOfTwo_max (power : isPowerOfTwo left = true)
    (power' : isPowerOfTwo right = true) :
    isPowerOfTwo (max left right) = true := by
  rcases Nat.le_total left right with below | above
  · rw [Nat.max_eq_right below]
    exact power'
  · rw [Nat.max_eq_left above]
    exact power

end Pair

theorem isPowerOfTwo_leastAlignment : isPowerOfTwo leastAlignment = true :=
  isPowerOfTwo_iff.mpr ⟨3, rfl⟩

theorem isPowerOfTwo_storageAlignment :
    isPowerOfTwo storageAlignment = true :=
  isPowerOfTwo_iff.mpr ⟨4, rfl⟩

theorem isPowerOfTwo_wordLimit : isPowerOfTwo wordLimit = true :=
  isPowerOfTwo_iff.mpr ⟨64, rfl⟩

theorem storageAlignment_supported :
    isPowerOfTwo storageAlignment = true ∧
      storageAlignment ≤ storageAlignment :=
  ⟨isPowerOfTwo_storageAlignment, Nat.le_refl _⟩

/-- What can be placed at all can be placed as a structure. -/
theorem placementAlignment_supported {align : Nat}
    (supported : isPowerOfTwo align = true ∧ align ≤ storageAlignment) :
    isPowerOfTwo (placementAlignment align) = true ∧
      placementAlignment align ≤ storageAlignment :=
  ⟨isPowerOfTwo_max supported.1 isPowerOfTwo_leastAlignment,
    Nat.max_le.mpr ⟨supported.2, by decide⟩⟩

def gap (position alignment : Nat) : Nat :=
  (alignment - position % alignment) % alignment

theorem dvd_add_gap {alignment : Nat} (positive : 0 < alignment)
    (position : Nat) : alignment ∣ position + gap position alignment := by
  have remainder := Nat.mod_lt position positive
  have division := Nat.div_add_mod position alignment
  unfold gap
  by_cases aligned : position % alignment = 0
  · rw [aligned, Nat.sub_zero, Nat.mod_self, Nat.add_zero]
    exact Nat.dvd_of_mod_eq_zero aligned
  · rw [Nat.mod_eq_of_lt (by omega)]
    exact ⟨position / alignment + 1, by rw [Nat.mul_add]; omega⟩

theorem gap_lt {alignment : Nat} (positive : 0 < alignment)
    (position : Nat) : gap position alignment < alignment :=
  Nat.mod_lt _ positive

theorem add_gap_unique {position alignment target : Nat}
    (aligned : alignment ∣ target) (above : position ≤ target)
    (near : target < position + alignment) :
    position + gap position alignment = target := by
  have positive : 0 < alignment := by omega
  have short := gap_lt positive position
  obtain ⟨reached, reaches⟩ := dvd_add_gap positive position
  obtain ⟨quotient, rfl⟩ := aligned
  rcases Nat.lt_trichotomy reached quotient with less | same | more
  · have step := Nat.mul_le_mul_left alignment less
    rw [Nat.mul_succ] at step
    omega
  · rw [reaches, same]
  · have step := Nat.mul_le_mul_left alignment more
    rw [Nat.mul_succ] at step
    omega

theorem isLeast_gap {alignment : Nat} (positive : 0 < alignment)
    (position : Nat) :
    IsLeast {count | alignment ∣ position + count}
      (gap position alignment) := by
  refine ⟨dvd_add_gap positive position, ?_⟩
  intro count reaches
  by_cases near : count < alignment
  · have same := add_gap_unique reaches (Nat.le_add_right position count)
      (Nat.add_lt_add_left near position)
    omega
  · have short := gap_lt positive position
    omega

theorem roundUp_eq_add_gap {alignment : Nat} (positive : 0 < alignment)
    (position : Nat) :
    roundUp position alignment = position + gap position alignment :=
  (add_gap_unique (dvd_roundUp position alignment)
    (le_roundUp positive position) (roundUp_lt positive position)).symm

theorem isLeast_roundUp {alignment : Nat} (positive : 0 < alignment)
    (position : Nat) :
    IsLeast {bound | alignment ∣ bound ∧ position ≤ bound}
      (roundUp position alignment) := by
  refine ⟨⟨dvd_roundUp position alignment, le_roundUp positive position⟩, ?_⟩
  rintro bound ⟨aligned, above⟩
  have reaches : alignment ∣ position + (bound - position) := by
    rw [Nat.add_sub_cancel' above]
    exact aligned
  have least := (isLeast_gap positive position).2 reaches
  rw [roundUp_eq_add_gap positive]
  omega

theorem roundUp_le {position alignment bound : Nat} (positive : 0 < alignment)
    (aligned : alignment ∣ bound) (above : position ≤ bound) :
    roundUp position alignment ≤ bound :=
  (isLeast_roundUp positive position).2 ⟨aligned, above⟩

theorem roundUp_mono {lower upper alignment : Nat} (positive : 0 < alignment)
    (ordered : lower ≤ upper) :
    roundUp lower alignment ≤ roundUp upper alignment :=
  roundUp_le positive (dvd_roundUp upper alignment)
    (Nat.le_trans ordered (le_roundUp positive upper))

section Limit

variable {storage limit : Nat}

theorem capacityLimit_eq_ok_iff :
    capacityLimit storage = .ok limit ↔
      isPowerOfTwo storage = true ∧ storage < signedMax ∧
        signedMax - (storage - 1) = limit := by
  unfold capacityLimit
  by_cases power : isPowerOfTwo storage = true
  · have nonzero := Nat.ne_of_gt (isPowerOfTwo_pos power)
    by_cases large : signedMax ≤ storage
    · simp [nonzero, power, large]
    · simp [nonzero, power, large, Nat.lt_of_not_le large]
  · by_cases zero : storage = 0
    · subst zero
      simp [power]
    · simp [zero, power]

/-- The limit lies one alignment below the first number that is no signed
word, and the alignment divides that number. -/
theorem dvd_capacityLimit (limited : capacityLimit storage = .ok limit) :
    storage ∣ limit := by
  obtain ⟨power, small, rfl⟩ := capacityLimit_eq_ok_iff.mp limited
  have positive := isPowerOfTwo_pos power
  have half : isPowerOfTwo (signedMax + 1) = true :=
    isPowerOfTwo_iff.mpr ⟨63, rfl⟩
  have short : signedMax - (storage - 1) = signedMax + 1 - storage := by omega
  rw [short]
  exact Nat.dvd_sub (isPowerOfTwo_dvd power half (by omega))
    (Nat.dvd_refl storage)

theorem roundUp_le_capacityLimit {position alignment : Nat}
    (limited : capacityLimit storage = .ok limit)
    (power : isPowerOfTwo alignment = true) (fine : alignment ≤ storage)
    (below : position ≤ limit) : roundUp position alignment ≤ limit := by
  obtain ⟨coarse, -, -⟩ := capacityLimit_eq_ok_iff.mp limited
  have divides := isPowerOfTwo_dvd power coarse fine
  exact roundUp_le (isPowerOfTwo_pos power)
    (Nat.dvd_trans divides (dvd_capacityLimit limited)) below

theorem roundUp_le_maxCapacity {position alignment : Nat}
    (supported : isPowerOfTwo alignment = true ∧
      alignment ≤ storageAlignment)
    (below : position ≤ maxCapacity) :
    roundUp position alignment ≤ maxCapacity :=
  roundUp_le_capacityLimit capacityLimit_storageAlignment supported.1
    supported.2 below

end Limit

end FlatGraph
