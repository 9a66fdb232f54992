import FlatGraph.Proofs.Action
import FlatGraph.Proofs.Mask

/-!
Calculating with machine words, where a result that no word holds ends the
action. An action that nevertheless ends as it does by numbers of any size
never wraps.
-/

namespace FlatGraph

namespace Checked

inductive Halt where
  /-- A sum, difference or product that is no machine word. -/
  | wrapped
  | fault (cause : Fault)

abbrev Action (σ : Type) := EStateM Halt σ

variable {σ α β : Type}

def add (left right : Nat) : Action σ Nat :=
  if left + right < wordLimit then pure (left + right) else throw .wrapped

def sub (left right : Nat) : Action σ Nat :=
  if right ≤ left then pure (left - right) else throw .wrapped

def mul (left right : Nat) : Action σ Nat :=
  if left * right < wordLimit then pure (left * right) else throw .wrapped

def orOverflow (result : Nat) : Action σ Nat :=
  if result < wordLimit then pure result
  else throw (.fault .capacityOverflow)

/-- Rounds up by masks, for which two differences and a sum are formed. -/
def roundUp (position alignment : Nat) : Action σ Nat := do
  let above ← add position alignment
  discard (sub above 1)
  discard (sub alignment 1)
  return (maskUp (UInt64.ofNat position) (UInt64.ofNat alignment)).toNat

def nextPowerOfTwo (value : Nat) : Action σ Nat :=
  let power := ceilPowerOfTwo value
  if power < wordLimit then pure power else throw .wrapped

theorem add_eq {left right : Nat} (fits : left + right < wordLimit) :
    (add left right : Action σ Nat) = pure (left + right) :=
  if_pos fits

theorem sub_eq {left right : Nat} (above : right ≤ left) :
    (sub left right : Action σ Nat) = pure (left - right) :=
  if_pos above

theorem mul_eq {left right : Nat} (fits : left * right < wordLimit) :
    (mul left right : Action σ Nat) = pure (left * right) :=
  if_pos fits

theorem orOverflow_eq {result : Nat} (fits : result < wordLimit) :
    (orOverflow result : Action σ Nat) = pure result :=
  if_pos fits

theorem roundUp_eq {position alignment : Nat}
    (power : isPowerOfTwo alignment = true)
    (fits : position + alignment < wordLimit) :
    (roundUp position alignment : Action σ Nat) =
      pure (FlatGraph.roundUp position alignment) := by
  have positive := isPowerOfTwo_pos power
  rw [roundUp, add_eq fits, pure_bind, sub_eq (by omega), sub_eq positive,
    maskUp_toNat power (Nat.le_of_lt fits)]
  rfl

theorem nextPowerOfTwo_eq {value : Nat} (small : value ≤ 2 ^ 62) :
    (nextPowerOfTwo value : Action σ Nat) = pure (ceilPowerOfTwo value) := by
  have bounded := ceilPowerOfTwo_le small
  exact if_pos (Nat.lt_of_le_of_lt bounded (by decide))

def exactly : EStateM.Result Fault σ α → EStateM.Result Halt σ α
  | .ok value after => .ok value after
  | .error fault after => .error (.fault fault) after

/-- An action that forms no sum, difference or product. -/
def lift (action : EStateM Fault σ α) : Action σ α :=
  fun state => exactly (action state)

/-- From a state, the checked action ends as the plain one does, with the same
value or the same report and in the same state. -/
structure Exact (checked : Action σ α) (plain : EStateM Fault σ α)
    (state : σ) : Prop where
  same : checked state = exactly (plain state)
  unwrapped : ∀ after, checked state ≠ .error .wrapped after

namespace Exact

variable {checked : Action σ α} {plain : EStateM Fault σ α} {state : σ}

theorem of_same (same : checked state = exactly (plain state)) :
    Exact checked plain state := by
  refine ⟨same, fun after wrapped => ?_⟩
  rw [same] at wrapped
  cases ended : plain state with
  | ok value final =>
      rw [ended] at wrapped
      cases wrapped
  | error fault final =>
      rw [ended] at wrapped
      cases wrapped

theorem lift (action : EStateM Fault σ α) (state : σ) :
    Exact (Checked.lift action) action state :=
  of_same rfl

theorem pure (value : α) (state : σ) :
    Exact (Pure.pure value) (Pure.pure value) state :=
  of_same rfl

theorem throw (fault : Fault) (state : σ) :
    Exact (throw (.fault fault) : Action σ α) (throw fault) state :=
  of_same rfl

theorem bind {next : α → Action σ β} {rest : α → EStateM Fault σ β}
    (first : Exact checked plain state)
    (later : ∀ value after, plain state = .ok value after →
      Exact (next value) (rest value) after) :
    Exact (checked >>= next) (plain >>= rest) state := by
  have same := first.same
  apply of_same
  cases ended : plain state with
  | ok value after =>
      rw [ended] at same
      rw [Action.bind_of_ok same, Action.bind_of_ok ended]
      exact (later value after ended).same
  | error fault after =>
      rw [ended] at same
      rw [Action.bind_of_error same, Action.bind_of_error ended]
      rfl

theorem get {next : σ → Action σ β} {rest : σ → EStateM Fault σ β}
    (later : Exact (next state) (rest state) state) :
    Exact (get >>= next) (get >>= rest) state :=
  of_same later.same

theorem map {f : α → β} (exact : Exact checked plain state) :
    Exact (f <$> checked) (f <$> plain) state := by
  rw [← bind_pure_comp, ← bind_pure_comp]
  exact exact.bind fun value after _ => .pure (f value) after

theorem discard (exact : Exact checked plain state) :
    Exact (discard checked : Action σ Unit) (discard plain) state :=
  exact.bind fun _ after _ => .pure () after

end Exact

structure ExactMade (checked : Except Halt σ) (plain : Except Fault σ) :
    Prop where
  same : checked = plain.mapError .fault
  unwrapped : checked ≠ .error .wrapped

theorem ExactMade.of_same {checked : Except Halt σ} {plain : Except Fault σ}
    (same : checked = plain.mapError .fault) : ExactMade checked plain := by
  refine ⟨same, fun wrapped => ?_⟩
  rw [same] at wrapped
  cases plain with
  | ok state => cases wrapped
  | error fault => cases wrapped

def made (action : Action σ Unit) (blank : σ) : Except Halt σ :=
  match action blank with
  | .ok _ state => .ok state
  | .error halt _ => .error halt

theorem made_of_ok {action : Action σ Unit} {blank state : σ}
    (ran : action blank = .ok () state) : made action blank = .ok state := by
  rw [made, ran]

theorem made_of_error {action : Action σ Unit} {blank state : σ} {halt : Halt}
    (failed : action blank = .error halt state) :
    made action blank = .error halt := by
  rw [made, failed]

theorem made_bind (action : Action σ Unit) (next : Unit → Action σ Unit)
    (blank : σ) :
    made (action >>= next) blank =
      (made action blank).bind (made (next ())) := by
  cases ended : action blank with
  | ok _ state =>
      rw [made_of_ok ended, made, Action.bind_of_ok ended]
      rfl
  | error halt state =>
      rw [made_of_error ended, made_of_error (Action.bind_of_error ended)]
      rfl

end Checked

end FlatGraph
