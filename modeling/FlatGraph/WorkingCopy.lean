/-!
The state of a working copy, gathered from its nodes: the range of revisions
in it, and whether it is switched, modified or sparse.
-/

namespace FlatGraph

namespace WorkingCopy

/-- A node of a working copy; `sourceRevision` is the revision that an added node
was copied from. -/
structure Node where
  path : String
  revision : Option Nat
  url : Option String
  sourceRevision : Option Nat
  textModified : Bool
  propsModified : Bool
  switched : Bool
  depthInfinite : Bool
  deriving DecidableEq, Repr

def Node.effectiveRevision (node : Node) : Option Nat :=
  node.revision.or node.sourceRevision

structure Status where
  minRevision : Option Nat
  maxRevision : Option Nat
  switched : Bool
  modified : Bool
  sparse : Bool
  deriving DecidableEq, Repr

/-- What has been gathered so far. The URL is the first one known for the root
of the working copy. -/
structure Gathering where
  root : String
  trailUrl : Option String
  status : Status
  rootUrl : Option String
  deriving DecidableEq, Repr

namespace Gathering

def start (root : String) (trailUrl : Option String) : Gathering where
  root
  trailUrl
  status := ⟨none, none, false, false, false⟩
  rootUrl := none

def widen (choose : Nat → Nat → Nat) (bound revision : Option Nat) :
    Option Nat :=
  match revision with
  | none => bound
  | some revision => some ((bound.map (choose · revision)).getD revision)

def add (gathering : Gathering) (node : Node) : Gathering :=
  let status := gathering.status
  { gathering with
    status := {
      minRevision := widen min status.minRevision node.effectiveRevision
      maxRevision := widen max status.maxRevision node.effectiveRevision
      switched := status.switched || node.switched
      modified := status.modified || (node.textModified || node.propsModified)
      sparse := status.sparse || !node.depthInfinite }
    rootUrl :=
      if gathering.rootUrl.isNone && node.path == gathering.root then node.url
      else gathering.rootUrl }

/-- Whether the URL of the root departs from the one that it should end with;
an unknown URL does. -/
def departs (gathering : Gathering) : Bool :=
  match gathering.trailUrl, gathering.rootUrl with
  | none, _ => false
  | some _, none => true
  | some trail, some url => !trail.toList.isSuffixOf url.toList

def finish (gathering : Gathering) : Status :=
  { gathering.status with
    switched := gathering.status.switched || gathering.departs }

end Gathering

/-- Gathers nodes up to the first failure of the scan. Answers with the status,
or with that failure, and with the number of items looked at. -/
def scan {ε : Type} (gathering : Gathering) :
    List (Except ε Node) → Except ε Status × Nat
  | [] => (.ok gathering.finish, 0)
  | .error cause :: _ => (.error cause, 1)
  | .ok node :: rest =>
      let later := scan (gathering.add node) rest
      (later.1, later.2 + 1)

def status {ε : Type} (root : String) (trailUrl : Option String)
    (items : List (Except ε Node)) : Except ε Status × Nat :=
  scan (Gathering.start root trailUrl) items

/-- The status as it would be after no node, after the first, and so on;
failures of the scan are passed over. -/
def statuses {ε : Type} (gathering : Gathering) :
    List (Except ε Node) → List Status
  | [] => [gathering.finish]
  | .error _ :: rest => statuses gathering rest
  | .ok node :: rest =>
      gathering.finish :: statuses (gathering.add node) rest

end WorkingCopy

end FlatGraph
