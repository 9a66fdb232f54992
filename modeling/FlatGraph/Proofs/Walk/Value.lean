import FlatGraph.Proofs.Walk.Part
import Mathlib.Data.Finset.Prod
import Mathlib.Data.Fintype.Card
import Mathlib.Logic.Relation

/-!
Values in memory that a walk can follow to an end: every text ends, and no
structure leads back into itself. A walk over such a value is never deeper
than there are pairs of a type and an address.
-/

namespace FlatGraph

variable {count : Nat}

namespace Schema

abbrev Node (count : Nat) := Fin count × Nat

section Memory

variable (schema : Schema count) (memory : Memory)

/-- A structure leads to the target of a pointer, and to each element of an
array of targets, unless the pointer is null. -/
inductive Leads : Node count → Node count → Prop where
  | structure {type target : Fin count} {address : Nat} {link : Link count}
      (member : link ∈ (schema type).links)
      (kind : link.target = .structure target)
      (here : memory.word (address + link.offset) ≠ 0) :
      Leads (type, address) (target, memory.word (address + link.offset))
  | element {type target : Fin count} {address index : Nat}
      {link : Link count} {length : LengthField}
      (member : link ∈ (schema type).links)
      (kind : link.target = .array target length)
      (here : memory.word (address + link.offset) ≠ 0)
      (inside : index < length.read memory address) :
      Leads (type, address)
        (target, memory.word (address + link.offset) +
          (schema target).layout.size * index)

/-- A value without cycles, in the address space, whose texts all end. -/
inductive Valid : Node count → Prop where
  | intro {type : Fin count} {address : Nat} (small : address < wordLimit)
      (texts : ∀ link ∈ (schema type).links, link.target = .string →
        memory.word (address + link.offset) ≠ 0 →
          (memory.string? (memory.word (address + link.offset))).isSome)
      (targets : ∀ node, Leads schema memory (type, address) node →
        Valid node) :
      Valid (type, address)

/-- What a walk asks of a link before it follows it; `follows` is what it asks
of the structures that the link leads to. -/
def FollowsLink (follows : Node count → Prop) (address : Nat)
    (link : Link count) : Prop :=
  let pointer := memory.word (address + link.offset)
  match link.target with
  | .structure target => pointer ≠ 0 → follows (target, pointer)
  | .array target length => pointer ≠ 0 →
      ∀ index < length.read memory address,
        follows (target, pointer + (schema target).layout.size * index)
  | .string => pointer ≠ 0 → (memory.string? pointer).isSome
  | .nothing => True

def Follows : (depth : Nat) → Node count → Prop
  | 0, _ => False
  | depth + 1, (type, address) =>
      address < wordLimit ∧ ∀ link ∈ (schema type).links,
        FollowsLink schema memory (Follows depth) address link

instance decidableFollowsLink (follows : Node count → Prop)
    [DecidablePred follows] (address : Nat) :
    (link : Link count) →
      Decidable (FollowsLink schema memory follows address link)
  | ⟨_, .structure _⟩ => inferInstanceAs (Decidable (_ ≠ 0 → follows _))
  | ⟨_, .array _ length⟩ =>
      inferInstanceAs (Decidable (_ ≠ 0 →
        ∀ index < length.read memory address, follows _))
  | ⟨_, .string⟩ => inferInstanceAs (Decidable (_ ≠ 0 → _ = true))
  | ⟨_, .nothing⟩ => inferInstanceAs (Decidable True)

instance decidableFollows : (depth : Nat) → (node : Node count) →
    Decidable (Follows schema memory depth node)
  | 0, _ => inferInstanceAs (Decidable False)
  | depth + 1, (type, address) =>
      have : DecidablePred (Follows schema memory depth) :=
        decidableFollows depth
      inferInstanceAs (Decidable (address < wordLimit ∧
        ∀ link ∈ (schema type).links,
          FollowsLink schema memory (Follows schema memory depth) address
            link))

end Memory

variable {schema : Schema count} {memory : Memory} {node : Node count}

theorem FollowsLink.imp {follows other : Node count → Prop}
    (weaker : ∀ node, follows node → other node) {address : Nat}
    {link : Link count}
    (followed : FollowsLink schema memory follows address link) :
    FollowsLink schema memory other address link := by
  obtain ⟨offset, target⟩ := link
  cases target with
  | «structure» target => exact fun here => weaker _ (followed here)
  | array target length =>
      exact fun here index inside => weaker _ (followed here index inside)
  | string => exact followed
  | nothing => trivial

theorem Follows.succ {depth : Nat} (followed : Follows schema memory depth node) :
    Follows schema memory (depth + 1) node := by
  induction depth generalizing node with
  | zero => cases followed
  | succ depth ih =>
      obtain ⟨small, links⟩ := followed
      exact ⟨small, fun link member =>
        (links link member).imp fun _ => ih⟩

theorem Follows.mono {depth more : Nat} (least : depth ≤ more)
    (followed : Follows schema memory depth node) :
    Follows schema memory more node := by
  induction least with
  | refl => exact followed
  | step _ ih => exact ih.succ

theorem Valid.acyclic (valid : Valid schema memory node) :
    ¬ Relation.TransGen (Leads schema memory) node node := by
  induction valid with
  | intro small texts targets ih =>
      intro cycle
      obtain ⟨next, leads, back⟩ := Relation.TransGen.head'_iff.mp cycle
      exact ih next leads (Relation.TransGen.tail' back leads)

theorem length_le_of_nodup {seen : List (Node count)} (nodup : seen.Nodup)
    (small : ∀ node ∈ seen, node.2 < wordLimit) :
    seen.length ≤ count * wordLimit := by
  have within : seen.toFinset ⊆
      (Finset.univ : Finset (Fin count)) ×ˢ Finset.range wordLimit := by
    intro node member
    have bounded := small node (List.mem_toFinset.mp member)
    exact Finset.mem_product.mpr
      ⟨Finset.mem_univ _, Finset.mem_range.mpr bounded⟩
  have least := Finset.card_le_card within
  rw [List.toFinset_card_of_nodup nodup, Finset.card_product,
    Finset.card_univ, Fintype.card_fin, Finset.card_range] at least
  exact least

/-- If no chain is longer than `total`, then so many structures less those
around a value are left for its nesting. -/
theorem Valid.follows_of_seen (valid : Valid schema memory node) {total : Nat}
    (chains : ∀ seen : List (Node count), seen.Nodup →
      (∀ other ∈ seen, other.2 < wordLimit) → seen.length ≤ total)
    {seen : List (Node count)} (nodup : seen.Nodup)
    (small : ∀ other ∈ seen, other.2 < wordLimit)
    (around : ∀ other ∈ seen,
      Relation.TransGen (Leads schema memory) other node) :
    Follows schema memory (total - seen.length) node := by
  induction valid generalizing seen with
  | @intro type address here texts targets ih =>
      have fresh : (type, address) ∉ seen := by
        intro member
        exact (Valid.intro here texts targets).acyclic (around _ member)
      have longer : ((type, address) :: seen).Nodup :=
        List.nodup_cons.mpr ⟨fresh, nodup⟩
      have bounded : ∀ other ∈ (type, address) :: seen,
          other.2 < wordLimit := by
        intro other member
        rcases List.mem_cons.mp member with rfl | older
        · exact here
        · exact small other older
      have next : ∀ node, Leads schema memory (type, address) node →
          Follows schema memory (total - (seen.length + 1)) node := by
        intro node leads
        refine ih node leads longer bounded ?_
        intro other member
        rcases List.mem_cons.mp member with rfl | older
        · exact .single leads
        · exact .tail (around other older) leads
      have room := chains _ longer bounded
      rw [List.length_cons] at room
      rw [show total - seen.length = total - (seen.length + 1) + 1 by omega]
      refine ⟨here, fun link member => ?_⟩
      unfold FollowsLink
      cases kind : link.target with
      | «structure» target =>
          exact fun present => next _ (.structure member kind present)
      | array target length =>
          exact fun present index inside =>
            next _ (.element member kind present inside)
      | string => exact texts link member kind
      | nothing => trivial

theorem Follows.valid {depth : Nat}
    (followed : Follows schema memory depth node) :
    Valid schema memory node := by
  induction depth generalizing node with
  | zero => cases followed
  | succ depth ih =>
      obtain ⟨type, address⟩ := node
      obtain ⟨small, links⟩ := followed
      refine .intro small ?_ ?_
      · intro link member kind
        have ends := links link member
        rw [FollowsLink, kind] at ends
        exact ends
      · intro node leads
        cases leads with
        | «structure» member kind here =>
            have inner := links _ member
            rw [FollowsLink, kind] at inner
            exact ih (inner here)
        | element member kind here inside =>
            have inner := links _ member
            rw [FollowsLink, kind] at inner
            exact ih (inner here _ inside)

theorem Valid.follows (valid : Valid schema memory node) :
    Follows schema memory (depthBound count) node := by
  refine Follows.mono (Nat.le_succ _)
    (valid.follows_of_seen (fun seen => length_le_of_nodup) List.nodup_nil
      ?_ ?_)
  · intro other member
    cases member
  · intro other member
    cases member

end Schema

end FlatGraph
