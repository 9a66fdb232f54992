import FlatGraph.Proofs.Buffer

/-!
How much memory a buffer asks for. A request is for one number, which depends
on nothing but the bytes that are needed; the allocator either grants that
number or is reported to have refused it.
-/

namespace FlatGraph

theorem isLeast_ceilPowerOfTwo (value : Nat) :
    IsLeast {power | (∃ exponent, power = 2 ^ exponent) ∧ value ≤ power}
      (ceilPowerOfTwo value) := by
  refine ⟨⟨exists_ceilPowerOfTwo value, le_ceilPowerOfTwo value⟩, ?_⟩
  rintro power ⟨⟨exponent, rfl⟩, above⟩
  exact ceilPowerOfTwo_le above

namespace Buffer

variable {buffer : Buffer}

inductive Wanted (need : Nat) : Nat → Prop
  | power {capacity : Nat} (small : need ≤ 2 ^ 62)
      (least : IsLeast {power | (∃ exponent, power = 2 ^ exponent) ∧
        max need storageAlignment ≤ power} capacity) : Wanted need capacity
  /-- The next power of two would pass the largest capacity. -/
  | limit (large : 2 ^ 62 < need) : Wanted need maxCapacity

theorem isLeast_max_ceilPowerOfTwo (need : Nat) :
    IsLeast {power | (∃ exponent, power = 2 ^ exponent) ∧
      max need storageAlignment ≤ power}
      (max (ceilPowerOfTwo need) storageAlignment) := by
  have power := isPowerOfTwo_max (isPowerOfTwo_ceilPowerOfTwo need)
    isPowerOfTwo_storageAlignment
  refine ⟨⟨isPowerOfTwo_iff.mp power, ?_⟩, ?_⟩
  · exact Nat.max_le.mpr
      ⟨Nat.le_trans (le_ceilPowerOfTwo need) (Nat.le_max_left _ _),
        Nat.le_max_right _ _⟩
  · rintro bound ⟨isPower, above⟩
    obtain ⟨needed, aligned⟩ := Nat.max_le.mp above
    exact Nat.max_le.mpr
      ⟨(isLeast_ceilPowerOfTwo need).2 ⟨isPower, needed⟩, aligned⟩

theorem grownCapacity?_wanted {need : Nat} (fits : need ≤ maxCapacity) :
    ∃ capacity, grownCapacity? need = some capacity ∧ Wanted need capacity := by
  unfold grownCapacity?
  rw [one_shiftLeft]
  by_cases small : need ≤ 2 ^ 62
  · rw [if_pos small]
    exact ⟨_, rfl, .power small (isLeast_max_ceilPowerOfTwo need)⟩
  · rw [if_neg small, if_pos fits]
    exact ⟨_, rfl, .limit (Nat.not_le.mp small)⟩

theorem grownCapacity?_of_overflow {need : Nat} (large : maxCapacity < need) :
    grownCapacity? need = none := by
  cases grown : grownCapacity? need with
  | none => rfl
  | some capacity =>
      obtain ⟨enough, bounded, -⟩ := grownCapacity?_bounds grown
      omega

/-- How a buffer comes to have room for so many bytes, for every allocator. -/
structure Growth (need : Nat) (buffer : Buffer)
    (action : Allocator → Action Unit) : Prop where
  unchanged : ∀ allocator,
    action allocator buffer = .ok () buffer ↔ need ≤ buffer.capacity
  overflows : ∀ allocator,
    action allocator buffer = .error .capacityOverflow buffer ↔
      maxCapacity < need
  /-- What is asked for is the same whatever is granted, and nothing else is
  asked for. -/
  asks : buffer.capacity < need → need ≤ maxCapacity →
    ∃ capacity, Wanted need capacity ∧ buffer.capacity < capacity ∧
      need ≤ capacity ∧ ∀ allocator, action allocator buffer =
        if allocator capacity then .ok () { buffer with capacity }
        else .error (.allocationRefused capacity) buffer

theorem setCapacity_eq {capacity : Nat} (positive : 0 < capacity)
    (allocator : Allocator) (buffer : Buffer) :
    setCapacity allocator capacity buffer =
      if allocator capacity then .ok () { buffer with capacity }
      else .error (.allocationRefused capacity) buffer := by
  have nonzero : capacity ≠ 0 := Nat.pos_iff_ne_zero.mp positive
  simp only [setCapacity, nonzero, false_or]

theorem Valid.growth {need : Nat} {action : Allocator → Action Unit}
    (valid : buffer.Valid)
    (runs : ∀ allocator, action allocator buffer =
      if buffer.capacity < need then grow allocator need buffer
      else .ok () buffer) : Growth need buffer action := by
  have bounded := valid.capacity_le_max
  rcases Nat.lt_or_ge buffer.capacity need with short | enough
  · simp only [if_pos short] at runs
    have denied (allocator : Allocator) :
        action allocator buffer ≠ .ok () buffer := by
      intro ran
      rw [runs] at ran
      obtain ⟨capacity, grown, same⟩ := grow_ok ran
      have large := (grownCapacity?_bounds grown).1
      have still : buffer.capacity = capacity := congrArg Buffer.capacity same
      omega
    rcases Nat.lt_or_ge maxCapacity need with large | fits
    · have failed (allocator : Allocator) :
          action allocator buffer = .error .capacityOverflow buffer := by
        rw [runs, grow, grownCapacity?_of_overflow large]
        rfl
      refine ⟨fun allocator => ?_, fun allocator => ?_, fun _ small => ?_⟩
      · exact iff_of_false (denied allocator) (Nat.not_le.mpr short)
      · exact iff_of_true (failed allocator) large
      · omega
    · obtain ⟨capacity, grown, wanted⟩ := grownCapacity?_wanted fits
      have above := (grownCapacity?_bounds grown).1
      have asked (allocator : Allocator) : action allocator buffer =
          if allocator capacity then .ok () { buffer with capacity }
          else .error (.allocationRefused capacity) buffer := by
        rw [runs, grow, grown]
        exact setCapacity_eq (by omega) allocator buffer
      refine ⟨fun allocator => ?_, fun allocator => ?_, fun _ _ => ?_⟩
      · exact iff_of_false (denied allocator) (Nat.not_le.mpr short)
      · refine iff_of_false (fun overflow => ?_) (Nat.not_lt.mpr fits)
        rw [asked] at overflow
        split at overflow <;> cases overflow
      · exact ⟨capacity, wanted, Nat.lt_of_lt_of_le short above, above, asked⟩
  · simp only [if_neg (Nat.not_lt.mpr enough)] at runs
    refine ⟨fun allocator => ?_, fun allocator => ?_, fun short _ => ?_⟩
    · exact iff_of_true (runs allocator) enough
    · refine iff_of_false (fun overflow => ?_) (by omega)
      rw [runs] at overflow
      cases overflow
    · omega

theorem Valid.ensure_growth (valid : buffer.Valid) (capacity : Nat) :
    Growth capacity buffer (ensure · capacity) :=
  valid.growth fun allocator => ensure_eq allocator capacity buffer

theorem Valid.reserve_growth (valid : buffer.Valid) (additional : Nat) :
    Growth (buffer.length + additional) buffer (reserve · additional) := by
  have inside := valid.length_le_capacity
  refine valid.growth fun allocator => ?_
  rw [reserve_eq]
  exact if_congr (by omega) rfl rfl

structure Creation (need : Nat) (made : Allocator → Except Fault Buffer) :
    Prop where
  overflows : ∀ allocator,
    made allocator = .error .capacityOverflow ↔ maxCapacity < need
  unasked : need = 0 → ∀ allocator, made allocator = .ok empty
  asks : 0 < need → need ≤ maxCapacity →
    ∃ capacity, IsLeast {room | storageAlignment ∣ room ∧ need ≤ room} capacity ∧
      ∀ allocator, made allocator =
        if allocator capacity then .ok ⟨[], capacity⟩
        else .error (.allocationRefused capacity)

theorem withCapacity_of_fits {need : Nat} (positive : 0 < need)
    (fits : need ≤ maxCapacity) (allocator : Allocator) :
    withCapacity allocator need =
      if allocator (roundUp need storageAlignment) then
        .ok ⟨[], roundUp need storageAlignment⟩
      else .error (.allocationRefused (roundUp need storageAlignment)) := by
  have above := le_roundUp (by decide : 0 < storageAlignment) need
  rw [withCapacity, if_neg (Nat.not_lt.mpr fits),
    setCapacity_eq (by omega) allocator empty]
  cases allocator (roundUp need storageAlignment) <;> rfl

theorem withCapacity_creation (need : Nat) :
    Creation need (withCapacity · need) := by
  refine ⟨fun allocator => ⟨fun overflow => ?_, fun large => if_pos large⟩,
    ?_, ?_⟩
  · cases withCapacity_refused overflow with
    | overflow large => exact large
  · rintro rfl allocator
    rfl
  · intro positive fits
    exact ⟨_, isLeast_roundUp (by decide) need,
      withCapacity_of_fits positive fits⟩

theorem growth_exact (valid : buffer.Valid) :
    (∀ additional,
      Growth (buffer.length + additional) buffer (reserve · additional)) ∧
    (∀ capacity, Growth capacity buffer (ensure · capacity)) ∧
    ∀ capacity, Creation capacity (withCapacity · capacity) :=
  ⟨valid.reserve_growth, valid.ensure_growth, withCapacity_creation⟩

theorem growth_exact_sample :
    Valid ⟨[7, 7], 16⟩ ∧
      reserve (· == maxCapacity) (2 ^ 62 - 1) ⟨[7, 7], 16⟩ =
        .ok () ⟨[7, 7], maxCapacity⟩ := by
  have valid : Valid ⟨[7, 7], 16⟩ := ⟨by decide, by decide, by decide⟩
  refine ⟨valid, ?_⟩
  obtain ⟨capacity, wanted, -, -, asked⟩ :=
    ((growth_exact valid).1 (2 ^ 62 - 1)).asks (by decide) (by decide)
  cases wanted with
  | power small least => exact absurd small (by decide)
  | limit large => exact asked (· == maxCapacity)

end Buffer

end FlatGraph
