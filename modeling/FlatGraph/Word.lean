/-!
Bytes and the sixty-four-bit little-endian words made of them. Positions,
addresses and sizes are natural numbers below `wordLimit`; a word occupies
`wordSize` bytes, lowest first.
-/

namespace FlatGraph

abbrev Bytes := List UInt8

def wordSize : Nat := 8

def wordLimit : Nat := 1 <<< 64

def encodeLittle : Nat → Nat → Bytes
  | 0, _ => []
  | width + 1, value =>
      UInt8.ofNat value :: encodeLittle width (value / 256)

def decodeLittle : Bytes → Nat
  | [] => 0
  | byte :: rest => byte.toNat + 256 * decodeLittle rest

@[simp] theorem encodeLittle_length (width value : Nat) :
    (encodeLittle width value).length = width := by
  induction width generalizing value with
  | zero => rfl
  | succ width ih => simp [encodeLittle, ih]

theorem one_shiftLeft_succ (width : Nat) :
    1 <<< (8 * (width + 1)) = 256 * 1 <<< (8 * width) := by
  rw [Nat.mul_succ, Nat.shiftLeft_add, Nat.shiftLeft_eq, Nat.mul_comm]

theorem decodeLittle_encodeLittle (width value : Nat) :
    decodeLittle (encodeLittle width value) = value % (1 <<< (8 * width)) := by
  induction width generalizing value with
  | zero => simp [encodeLittle, decodeLittle, Nat.mod_one]
  | succ width ih =>
      simp only [encodeLittle, decodeLittle, ih, UInt8.toNat_ofNat']
      rw [one_shiftLeft_succ]
      exact Nat.mod_mul.symm

def encodeWord (value : Nat) : Bytes :=
  encodeLittle wordSize value

@[simp] theorem encodeWord_length (value : Nat) :
    (encodeWord value).length = wordSize :=
  encodeLittle_length wordSize value

theorem decodeLittle_encodeWord {value : Nat} (small : value < wordLimit) :
    decodeLittle (encodeWord value) = value := by
  rw [encodeWord, decodeLittle_encodeLittle]
  exact Nat.mod_eq_of_lt small

/-- A difference of addresses as the machine reports it: modulo the word size,
read as a signed number. -/
def signedWord (value : Int) : Int :=
  value.bmod wordLimit

def wordOfInt (value : Int) : Nat :=
  (value % wordLimit).toNat

end FlatGraph
