import FlatGraph.WorkingCopy

/-!
What the state of a working copy says about its nodes. Gathering looks at one
node at a time; what it has found is always what holds of the nodes seen so
far, whatever their order.
-/

namespace FlatGraph

namespace WorkingCopy

variable {root : String} {trailUrl : Option String} {seen : List Node}

theorem forall_concat_iff {node : Node} {test : Node → Prop} :
    (∀ other ∈ seen ++ [node], test other) ↔
      (∀ other ∈ seen, test other) ∧ test node := by
  rw [List.forall_mem_append, List.forall_mem_singleton]

theorem exists_concat_iff {node : Node} {test : Node → Prop} :
    (∃ other ∈ seen ++ [node], test other) ↔
      (∃ other ∈ seen, test other) ∨ test node := by
  simp only [List.mem_append, List.mem_singleton, or_and_right, exists_or,
    exists_eq_left]

/-- The revision is the node's own, or, for a node without one, the revision
that it was copied from. -/
def Node.Brings (node : Node) (revision : Nat) : Prop :=
  node.revision = some revision ∨
    node.revision = none ∧ node.sourceRevision = some revision

/-- An end of the range of the revisions that nodes bring; there is none if no
node has a revision, own or copied. -/
def IsEnd (before : Nat → Nat → Prop) (nodes : List Node) :
    Option Nat → Prop
  | none => ∀ node ∈ nodes, node.revision = none ∧ node.sourceRevision = none
  | some bound =>
      (∃ node ∈ nodes, node.Brings bound) ∧
        ∀ node ∈ nodes, ∀ revision, node.Brings revision →
          before bound revision

theorem Node.effectiveRevision_eq_some_iff {node : Node} {revision : Nat} :
    node.effectiveRevision = some revision ↔ node.Brings revision := by
  rw [effectiveRevision, Option.or_eq_some_iff, Brings]

theorem Node.effectiveRevision_eq_none_iff {node : Node} :
    node.effectiveRevision = none ↔
      node.revision = none ∧ node.sourceRevision = none := by
  rw [effectiveRevision, Option.or_eq_none_iff]

theorem Node.Brings.unique {node : Node} {revision other : Nat}
    (brings : node.Brings revision) (also : node.Brings other) :
    revision = other := by
  have same := Node.effectiveRevision_eq_some_iff.mpr brings
  rw [Node.effectiveRevision_eq_some_iff.mpr also] at same
  exact (Option.some.inj same).symm

theorem Node.not_brings {node : Node}
    (unknown : node.revision = none ∧ node.sourceRevision = none)
    (revision : Nat) : ¬ node.Brings revision := by
  intro brings
  have known := Node.effectiveRevision_eq_some_iff.mpr brings
  rw [Node.effectiveRevision_eq_none_iff.mpr unknown] at known
  cases known

section Widen

variable {before : Nat → Nat → Prop} {choose : Nat → Nat → Nat}
  {bound : Option Nat} {node : Node}

theorem IsEnd.skip (found : IsEnd before seen bound)
    (unknown : node.revision = none ∧ node.sourceRevision = none) :
    IsEnd before (seen ++ [node]) bound := by
  cases bound with
  | none => exact forall_concat_iff.mpr ⟨found, unknown⟩
  | some bound =>
      obtain ⟨held, outermost⟩ := found
      refine ⟨exists_concat_iff.mpr (.inl held),
        forall_concat_iff.mpr ⟨outermost, ?_⟩⟩
      intro revision brings
      exact absurd brings (Node.not_brings unknown revision)

theorem IsEnd.first (found : IsEnd before seen none) {revision : Nat}
    (brings : node.Brings revision) (refl : before revision revision) :
    IsEnd before (seen ++ [node]) (some revision) := by
  refine ⟨exists_concat_iff.mpr (.inr brings),
    forall_concat_iff.mpr ⟨?_, ?_⟩⟩
  · intro other member carried bringing
    exact absurd bringing (Node.not_brings (found other member) carried)
  · intro carried bringing
    rw [← brings.unique bringing]
    exact refl

theorem IsEnd.next {bound revision : Nat}
    (found : IsEnd before seen (some bound)) (brings : node.Brings revision)
    (chosen : choose bound revision = bound ∨
      choose bound revision = revision)
    (left : before (choose bound revision) bound)
    (right : before (choose bound revision) revision)
    (trans : ∀ {a b c}, before a b → before b c → before a c) :
    IsEnd before (seen ++ [node]) (some (choose bound revision)) := by
  obtain ⟨held, outermost⟩ := found
  refine ⟨exists_concat_iff.mpr ?_, forall_concat_iff.mpr ⟨?_, ?_⟩⟩
  · rcases chosen with same | same
    · rw [same]
      exact .inl held
    · rw [same]
      exact .inr brings
  · intro other member carried bringing
    exact trans left (outermost other member carried bringing)
  · intro carried bringing
    rw [← brings.unique bringing]
    exact right

theorem IsEnd.widen (found : IsEnd before seen bound)
    (chosen : ∀ a b, choose a b = a ∨ choose a b = b)
    (left : ∀ a b, before (choose a b) a)
    (right : ∀ a b, before (choose a b) b)
    (refl : ∀ a, before a a)
    (trans : ∀ {a b c}, before a b → before b c → before a c) :
    IsEnd before (seen ++ [node])
      (Gathering.widen choose bound node.effectiveRevision) := by
  cases known : node.effectiveRevision with
  | none => exact found.skip (Node.effectiveRevision_eq_none_iff.mp known)
  | some revision =>
      have brings := Node.effectiveRevision_eq_some_iff.mp known
      cases bound with
      | none => exact found.first brings (refl revision)
      | some bound =>
          exact found.next brings (chosen bound revision)
            (left bound revision) (right bound revision) trans

end Widen

/-- The URL is the one of the first node at the root whose URL is known. -/
def RootUrl (root : String) (nodes : List Node) (url : String) : Prop :=
  ∃ earlier node later, nodes = earlier ++ node :: later ∧
    node.path = root ∧ node.url = some url ∧
    ∀ other ∈ earlier, other.path = root → other.url = none

def IsRootUrl (root : String) (nodes : List Node) : Option String → Prop
  | none => ∀ node ∈ nodes, node.path = root → node.url = none
  | some url => RootUrl root nodes url

theorem RootUrl.findSome?_eq {nodes : List Node} {url : String}
    (found : RootUrl root nodes url) :
    nodes.findSome? (fun node => if node.path = root then node.url else none) =
      some url := by
  obtain ⟨earlier, node, later, rfl, atRoot, known, unknown⟩ := found
  have passed : earlier.findSome?
      (fun node => if node.path = root then node.url else none) = none := by
    rw [List.findSome?_eq_none_iff]
    intro other member
    split
    · rename_i same
      exact unknown other member same
    · rfl
  rw [List.findSome?_append, passed, Option.none_or, List.findSome?_cons,
    if_pos atRoot, known]

theorem RootUrl.unique {nodes : List Node} {url other : String}
    (found : RootUrl root nodes url) (also : RootUrl root nodes other) :
    url = other :=
  Option.some.inj (found.findSome?_eq.symm.trans also.findSome?_eq)

theorem IsRootUrl.add {rootUrl : Option String}
    (found : IsRootUrl root seen rootUrl) (node : Node) :
    IsRootUrl root (seen ++ [node])
      (if rootUrl.isNone && node.path == root then node.url else rootUrl) := by
  cases rootUrl with
  | some url =>
      obtain ⟨earlier, first, later, rfl, atRoot, known, unknown⟩ := found
      exact ⟨earlier, first, later ++ [node], by simp, atRoot, known, unknown⟩
  | none =>
      by_cases atRoot : node.path = root
      · simp only [Option.isNone_none, atRoot, BEq.rfl, Bool.and_self, if_pos]
        cases known : node.url with
        | none => exact forall_concat_iff.mpr ⟨found, fun _ => known⟩
        | some url => exact ⟨seen, node, [], rfl, atRoot, known, found⟩
      · simp only [Option.isNone_none, beq_eq_false_iff_ne.mpr atRoot,
          Bool.and_false, Bool.false_eq_true, if_false]
        exact forall_concat_iff.mpr ⟨found, fun same => absurd same atRoot⟩

def Departs (root : String) (trailUrl : Option String) (nodes : List Node) :
    Prop :=
  ∃ trail, trailUrl = some trail ∧
    ((∀ node ∈ nodes, node.path = root → node.url = none) ∨
      ∃ url, RootUrl root nodes url ∧ ¬ trail.toList <:+ url.toList)

structure Gathered (root : String) (trailUrl : Option String)
    (seen : List Node) (gathering : Gathering) : Prop where
  root_eq : gathering.root = root
  trailUrl_eq : gathering.trailUrl = trailUrl
  minRevision : IsEnd (· ≤ ·) seen gathering.status.minRevision
  maxRevision : IsEnd (· ≥ ·) seen gathering.status.maxRevision
  switched : gathering.status.switched = true ↔
    ∃ node ∈ seen, node.switched = true
  modified : gathering.status.modified = true ↔
    ∃ node ∈ seen, node.textModified = true ∨ node.propsModified = true
  sparse : gathering.status.sparse = true ↔
    ∃ node ∈ seen, node.depthInfinite = false
  rootUrl : IsRootUrl root seen gathering.rootUrl

theorem gathered_start (root : String) (trailUrl : Option String) :
    Gathered root trailUrl [] (Gathering.start root trailUrl) where
  root_eq := rfl
  trailUrl_eq := rfl
  minRevision := by intro node member; cases member
  maxRevision := by intro node member; cases member
  switched := by simp [Gathering.start]
  modified := by simp [Gathering.start]
  sparse := by simp [Gathering.start]
  rootUrl := by intro node member; cases member

theorem Gathered.add {gathering : Gathering}
    (gathered : Gathered root trailUrl seen gathering) (node : Node) :
    Gathered root trailUrl (seen ++ [node]) (gathering.add node) where
  root_eq := gathered.root_eq
  trailUrl_eq := gathered.trailUrl_eq
  minRevision := gathered.minRevision.widen (fun a b => by omega)
    Nat.min_le_left Nat.min_le_right Nat.le_refl Nat.le_trans
  maxRevision := gathered.maxRevision.widen (fun a b => by omega)
    Nat.le_max_left Nat.le_max_right Nat.le_refl
    (fun above further => Nat.le_trans further above)
  switched := by
    rw [exists_concat_iff, ← gathered.switched]
    exact Bool.or_eq_true_iff
  modified := by
    rw [exists_concat_iff, ← gathered.modified, ← Bool.or_eq_true_iff]
    exact Bool.or_eq_true_iff
  sparse := by
    rw [exists_concat_iff, ← gathered.sparse, ← Bool.not_eq_true']
    exact Bool.or_eq_true_iff
  rootUrl := by
    have added := gathered.rootUrl.add node
    rw [← gathered.root_eq] at added ⊢
    exact added

theorem Gathered.foldl {gathering : Gathering}
    (gathered : Gathered root trailUrl seen gathering) (nodes : List Node) :
    Gathered root trailUrl (seen ++ nodes)
      (nodes.foldl Gathering.add gathering) := by
  induction nodes generalizing seen gathering with
  | nil =>
      rw [List.append_nil]
      exact gathered
  | cons node rest ih =>
      have later := ih (gathered.add node)
      rw [List.append_assoc] at later
      exact later

theorem Gathered.departs_iff {gathering : Gathering}
    (gathered : Gathered root trailUrl seen gathering) :
    gathering.departs = true ↔ Departs root trailUrl seen := by
  have known := gathered.rootUrl
  rw [Gathering.departs, gathered.trailUrl_eq]
  cases trailUrl with
  | none =>
      constructor
      · intro impossible
        cases impossible
      · rintro ⟨trail, impossible, -⟩
        cases impossible
  | some trail =>
      cases urlEq : gathering.rootUrl with
      | none =>
          rw [urlEq] at known
          exact ⟨fun _ => ⟨trail, rfl, .inl known⟩, fun _ => rfl⟩
      | some url =>
          rw [urlEq] at known
          simp only [Bool.not_eq_true', ← Bool.not_eq_true,
            List.isSuffixOf_iff_suffix]
          constructor
          · intro departs
            exact ⟨trail, rfl, .inr ⟨url, known, departs⟩⟩
          · rintro ⟨_, same, unknown | ⟨other, also, departs⟩⟩
            · obtain ⟨earlier, node, later, rfl, atRoot, present, -⟩ := known
              rw [unknown node (List.mem_append_right _ List.mem_cons_self)
                atRoot] at present
              cases present
            · rw [Option.some.inj same, known.unique also]
              exact departs

structure Summarizes (root : String) (trailUrl : Option String)
    (nodes : List Node) (status : Status) : Prop where
  minRevision : IsEnd (· ≤ ·) nodes status.minRevision
  maxRevision : IsEnd (· ≥ ·) nodes status.maxRevision
  modified : status.modified = true ↔
    ∃ node ∈ nodes, node.textModified = true ∨ node.propsModified = true
  sparse : status.sparse = true ↔ ∃ node ∈ nodes, node.depthInfinite = false
  switched : status.switched = true ↔
    (∃ node ∈ nodes, node.switched = true) ∨ Departs root trailUrl nodes

/-- Whatever the nodes are, and in whatever order they come. -/
theorem finish_summarizes (root : String) (trailUrl : Option String)
    (nodes : List Node) :
    Summarizes root trailUrl nodes
      (nodes.foldl Gathering.add (Gathering.start root trailUrl)).finish := by
  have gathered := (gathered_start root trailUrl).foldl nodes
  rw [List.nil_append] at gathered
  exact {
    minRevision := gathered.minRevision
    maxRevision := gathered.maxRevision
    modified := gathered.modified
    sparse := gathered.sparse
    switched := by
      rw [← gathered.switched, ← gathered.departs_iff]
      exact Bool.or_eq_true_iff }

end WorkingCopy

end FlatGraph
