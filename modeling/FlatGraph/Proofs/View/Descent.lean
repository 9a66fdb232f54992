import FlatGraph.Resolve
import FlatGraph.View
import FlatGraph.Proofs.Memory
import Mathlib.Data.List.Chain
import Mathlib.Order.WellFounded

/-!
Where a checked reader can go. Whatever the bytes are, a link leads behind the
structure that it belongs to and not past the end: a way from structure to
structure never comes back, and every walk over the bytes comes to an end.
-/

namespace FlatGraph

namespace View

variable {bytes : Bytes}

def Leads (bytes : Bytes) (position next : Nat) : Prop :=
  ∃ field, resolve bytes position field = .ok (some next)

theorem resolve_forward {container field target : Nat}
    (arrives : resolve bytes container field = .ok (some target)) :
    container < target ∧ target ≤ bytes.length := by
  unfold resolve at arrives
  split at arrives
  · split at arrives
    · cases arrives
    · rename_i offset found
      split at arrives
      · cases arrives
      · rename_i nonnull
        split at arrives
        · rename_i reached
          cases arrives
          simp only [Offset.isNull, beq_iff_eq] at nonnull
          omega
        · cases arrives
  · cases arrives

theorem Leads.forward {position next : Nat}
    (leads : Leads bytes position next) :
    position < next ∧ next ≤ bytes.length := by
  obtain ⟨field, arrives⟩ := leads
  exact resolve_forward arrives

theorem pairwise_of_leads {positions : List Nat}
    (way : positions.IsChain (Leads bytes)) : positions.Pairwise (· < ·) :=
  List.isChain_iff_pairwise.mp (way.imp fun _ _ leads => leads.forward.1)

theorem length_le_of_leads {first : Nat} {rest : List Nat}
    (way : (first :: rest).IsChain (Leads bytes)) :
    rest.length ≤ bytes.length - first := by
  induction rest generalizing first with
  | nil => exact Nat.zero_le _
  | cons next rest ih =>
      obtain ⟨leads, onward⟩ := List.isChain_cons_cons.mp way
      have ahead := leads.forward
      have later := ih onward
      rw [List.length_cons]
      omega

theorem wellFounded_leads (bytes : Bytes) :
    WellFounded fun next position => Leads bytes position next := by
  refine Subrelation.wf ?_ (measure fun position => bytes.length - position).wf
  intro next position leads
  have ahead := leads.forward
  change bytes.length - next < bytes.length - position
  omega

/-- The checked reader of the bytes: zero for null, and otherwise the position
to which a slot leads. -/
def resolver (bytes : Bytes) : Resolver (Except Fault) where
  resolve container slot :=
    (resolve bytes container (slot - container)).map (·.getD 0)
  length field position :=
    (slice bytes (position + field.offset) field.width).map fun _ =>
      field.read (Memory.ofBytes bytes) position
  cyclic := .error .cyclicGraph

section Walk

variable {α β : Type}

theorem bind_ne_error {fault : Fault} {action : Except Fault α}
    {next : α → Except Fault β} (first : action ≠ .error fault)
    (later : ∀ value, action = .ok value → next value ≠ .error fault) :
    (action >>= next) ≠ .error fault := by
  cases ran : action with
  | error cause =>
      intro failed
      cases failed
      exact first ran
  | ok value => exact later value ran

theorem forM_ne_error {fault : Fault} {visit : α → Except Fault Unit}
    {values : List α} (each : ∀ value ∈ values, visit value ≠ .error fault) :
    values.forM visit ≠ .error fault := by
  induction values with
  | nil => exact nofun
  | cons value values ih =>
      refine bind_ne_error (each value List.mem_cons_self) fun _ _ => ih ?_
      intro other member
      exact each other (List.mem_cons_of_mem _ member)

theorem forElements_ne_error {fault : Fault} {visit : Nat → Except Fault Unit}
    {stride elements first : Nat}
    (each : ∀ place, first ≤ place → visit place ≠ .error fault) :
    forElements visit stride elements first ≠ .error fault := by
  induction elements generalizing first with
  | zero => exact nofun
  | succ elements ih =>
      refine bind_ne_error (each first (Nat.le_refl _)) fun _ _ => ih ?_
      intro place behind
      exact each place (Nat.le_trans (Nat.le_add_right _ _) behind)

theorem map_ne_error {fault : Fault} {f : α → β} {result : Except Fault α}
    (returned : result ≠ .error fault) : result.map f ≠ .error fault := by
  cases result with
  | error cause =>
      intro failed
      cases failed
      exact returned rfl
  | ok value => exact nofun

theorem slice_ne_cyclicGraph (position length : Nat) :
    slice bytes position length ≠ .error .cyclicGraph := by
  intro failed
  unfold slice at failed
  split at failed
  · cases failed
  · cases failed

theorem resolve_ne_cyclicGraph (container field : Nat) :
    resolve bytes container field ≠ .error .cyclicGraph := by
  intro failed
  unfold resolve at failed
  split at failed
  · split at failed
    · rename_i fault missed
      cases failed
      exact map_ne_error (map_ne_error (slice_ne_cyclicGraph _ _)) missed
    · split at failed
      · cases failed
      · split at failed
        · cases failed
        · cases failed
  · cases failed

variable {count : Nat} {schema : Schema count}

theorem resolver_resolve_forward {container slot found : Nat}
    (ran : (resolver bytes).resolve container slot = .ok found)
    (present : found ≠ 0) : container < found ∧ found ≤ bytes.length := by
  change (resolve bytes container (slot - container)).map _ = _ at ran
  cases resolving : resolve bytes container (slot - container) with
  | error fault =>
      rw [resolving] at ran
      cases ran
  | ok target =>
      rw [resolving] at ran
      cases ran
      cases target with
      | none => exact absurd rfl present
      | some target => exact resolve_forward resolving

/-- The walk goes down by one structure for every link, and every link leaves
less of the bytes ahead. -/
theorem resolveLinks_ne_cyclicGraph {depth : Nat} (type : Fin count)
    {position : Nat} (deep : bytes.length < depth + position)
    (positive : 0 < depth) :
    schema.resolveLinks (resolver bytes) depth type position ≠
      .error .cyclicGraph := by
  induction depth generalizing type position with
  | zero => exact absurd positive (Nat.lt_irrefl 0)
  | succ depth ih =>
      refine forM_ne_error fun link _ => ?_
      refine bind_ne_error (map_ne_error (resolve_ne_cyclicGraph _ _)) ?_
      intro found ran
      have visits : found ≠ 0 → ∀ target place, found ≤ place →
          schema.resolveLinks (resolver bytes) depth target place ≠
            .error .cyclicGraph := by
        intro present target place behind
        have ahead := resolver_resolve_forward ran present
        exact ih target (by omega) (by omega)
      cases link.target with
      | «structure» target =>
          by_cases null : found = 0
          · simp [null, pure, Except.pure]
          · simpa [null] using visits null target found (Nat.le_refl _)
      | array target length =>
          by_cases skipped : found = 0 ∨ schema.isPlain target
          · simp [skipped, pure, Except.pure]
          · simp only [skipped]
            refine bind_ne_error (map_ne_error (slice_ne_cyclicGraph _ _))
              fun elements _ => forElements_ne_error fun place behind => ?_
            exact visits (fun null => skipped (.inl null)) target place behind
      | string => exact nofun
      | nothing => exact nofun

end Walk

/-- What no bytes can do to a reader that checks every link. -/
structure Harmless (bytes : Bytes) : Prop where
  forward : ∀ container field target,
    resolve bytes container field = .ok (some target) →
      container < target ∧ target ≤ bytes.length
  way : ∀ positions : List Nat, positions.IsChain (Leads bytes) →
    positions.Pairwise (· < ·) ∧ positions.Nodup ∧
      positions.length ≤ bytes.length + 1
  ends : WellFounded fun next position => Leads bytes position next
  walk : ∀ {count : Nat} (schema : Schema count) type position depth,
    bytes.length < depth →
      schema.resolveLinks (resolver bytes) depth type position ≠
        .error .cyclicGraph

theorem harmless (bytes : Bytes) : Harmless bytes := by
  refine ⟨fun _ _ _ => resolve_forward, ?_, wellFounded_leads bytes, ?_⟩
  · intro positions way
    have increasing := pairwise_of_leads way
    refine ⟨increasing, increasing.imp Nat.ne_of_lt, ?_⟩
    cases positions with
    | nil => exact Nat.zero_le _
    | cons first rest =>
        have shorter := length_le_of_leads way
        rw [List.length_cons]
        omega
  · intro count schema type position depth deep
    exact resolveLinks_ne_cyclicGraph type (by omega) (by omega)

/-- An offset that wraps around to an earlier address is an offset to nowhere
for a reader that checks. -/
example :
    let bytes := encodeWord 0 ++ encodeWord 0 ++ encodeWord (wordLimit - 8)
    (Memory.ofBytes bytes).peek 16 16 = 8 ∧
      resolve bytes 16 0 = .error (.positionOutOfBounds (wordLimit - 1) 24) :=
  ⟨by decide +kernel, by rfl⟩

end View

end FlatGraph
