import FlatGraph.Flattener

/-!
Running actions that may fail: a sequence succeeds exactly if both of its
parts do, and fails where the first of them does.
-/

namespace FlatGraph

namespace Action

variable {ε σ α β : Type}

theorem bind_of_ok {action : EStateM ε σ α} {next : α → EStateM ε σ β}
    {before after : σ} {value : α}
    (ran : action before = .ok value after) :
    (action >>= next) before = next value after := by
  change (match action before with
    | .ok value after => next value after
    | .error fault after => .error fault after) = _
  rw [ran]

theorem bind_of_error {action : EStateM ε σ α} {next : α → EStateM ε σ β}
    {before after : σ} {fault : ε}
    (failed : action before = .error fault after) :
    (action >>= next) before = .error fault after := by
  change (match action before with
    | .ok value after => next value after
    | .error fault after => .error fault after) = _
  rw [failed]

theorem get_bind (next : σ → EStateM ε σ α) (state : σ) :
    (get >>= next) state = next state state :=
  rfl

theorem bind_congr_left {first second : EStateM ε σ α}
    {next : α → EStateM ε σ β} {before : σ}
    (same : first before = second before) :
    (first >>= next) before = (second >>= next) before := by
  change (match first before with
    | .ok value after => next value after
    | .error fault after => .error fault after) = _
  rw [same]
  rfl

theorem bind_eq_ok_iff {action : EStateM ε σ α} {next : α → EStateM ε σ β}
    {before final : σ} {result : β} :
    (action >>= next) before = .ok result final ↔
      ∃ value after, action before = .ok value after ∧
        next value after = .ok result final := by
  cases ran : action before with
  | ok value after =>
      rw [bind_of_ok ran]
      constructor
      · intro finished
        exact ⟨value, after, rfl, finished⟩
      · rintro ⟨_, _, same, finished⟩
        cases same
        exact finished
  | error fault after =>
      rw [bind_of_error ran]
      constructor
      · intro impossible
        cases impossible
      · rintro ⟨_, _, impossible, _⟩
        cases impossible

theorem bind_eq_error_iff {action : EStateM ε σ α}
    {next : α → EStateM ε σ β} {before final : σ} {fault : ε} :
    (action >>= next) before = .error fault final ↔
      action before = .error fault final ∨
        ∃ value after, action before = .ok value after ∧
          next value after = .error fault final := by
  cases ran : action before with
  | ok value after =>
      rw [bind_of_ok ran]
      constructor
      · intro failed
        exact .inr ⟨value, after, rfl, failed⟩
      · rintro (impossible | ⟨_, _, same, failed⟩)
        · cases impossible
        · cases same
          exact failed
  | error cause after =>
      rw [bind_of_error ran]
      constructor
      · intro failed
        cases failed
        exact .inl rfl
      · rintro (failed | ⟨_, _, impossible, _⟩)
        · cases failed
          rfl
        · cases impossible

theorem map_of_ok {f : α → β} {action : EStateM ε σ α} {before after : σ}
    {value : α} (ran : action before = .ok value after) :
    (f <$> action) before = .ok (f value) after := by
  rw [← bind_pure_comp]
  exact bind_of_ok ran

theorem map_of_error {f : α → β} {action : EStateM ε σ α}
    {before after : σ} {fault : ε}
    (failed : action before = .error fault after) :
    (f <$> action) before = .error fault after := by
  rw [← bind_pure_comp]
  exact bind_of_error failed

theorem map_eq_ok_iff {f : α → β} {action : EStateM ε σ α} {before after : σ}
    {result : β} :
    (f <$> action) before = .ok result after ↔
      ∃ value, action before = .ok value after ∧ f value = result := by
  rw [← bind_pure_comp, bind_eq_ok_iff]
  constructor
  · rintro ⟨value, _, ran, finished⟩
    cases finished
    exact ⟨value, ran, rfl⟩
  · rintro ⟨value, ran, rfl⟩
    exact ⟨value, after, ran, rfl⟩

theorem map_eq_error_iff {f : α → β} {action : EStateM ε σ α}
    {before after : σ} {fault : ε} :
    (f <$> action) before = .error fault after ↔
      action before = .error fault after := by
  rw [← bind_pure_comp, bind_eq_error_iff]
  constructor
  · rintro (failed | ⟨_, _, _, impossible⟩)
    · exact failed
    · cases impossible
  · intro failed
    exact .inl failed

theorem discard_of_ok {action : EStateM ε σ α} {before after : σ} {value : α}
    (ran : action before = .ok value after) :
    (discard action : EStateM ε σ Unit) before = .ok () after :=
  bind_of_ok ran

theorem discard_of_error {action : EStateM ε σ α} {before after : σ}
    {fault : ε} (failed : action before = .error fault after) :
    (discard action : EStateM ε σ Unit) before = .error fault after :=
  bind_of_error failed

def after (action : EStateM ε σ α) (before : σ) : σ :=
  match action before with
  | .ok _ state => state
  | .error _ state => state

theorem after_congr {first second : EStateM ε σ α} {before : σ}
    (same : first before = second before) :
    after first before = after second before := by
  rw [after, after, same]

theorem after_discard (action : EStateM ε σ α) (before : σ) :
    after (discard action : EStateM ε σ Unit) before = after action before := by
  rw [after, after]
  cases ran : action before with
  | ok value state => rw [discard_of_ok ran]
  | error fault state => rw [discard_of_error ran]

end Action

section Result

variable {ε α β : Type} {f : α → β} {result : Except ε α}

theorem ok_of_map_ok {value : β} (made : result.map f = .ok value) :
    ∃ first, result = .ok first ∧ f first = value := by
  cases result with
  | error fault => cases made
  | ok first =>
      cases made
      exact ⟨first, rfl, rfl⟩

theorem error_of_map_error {fault : ε} (failed : result.map f = .error fault) :
    result = .error fault := by
  cases result with
  | error cause =>
      cases failed
      rfl
  | ok value => cases failed

end Result

end FlatGraph
