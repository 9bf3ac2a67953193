import Roster.Json.Record
/-!
# Clusters

The clusters that instances run on, and an index of them by id. When an id comes twice the later
cluster replaces the earlier one.
-/

namespace Roster

structure Cluster where
  id : String
  /-- Empty when it was not given. -/
  name : String
  deriving Repr, DecidableEq, Inhabited

namespace Cluster

open Json

def record : Record String where
  title := "struct Cluster"
  fields := [⟨"id", Shape.text, none⟩, ⟨"name", Shape.text, some ""⟩]

def ofFields : List String → Cluster
  | [id, name] => ⟨id, name⟩
  | _ => default

def shape : Shape Cluster := record.shape.map ofFields

/-- The one member of a list of clusters that is read. -/
def listRecord : Record (List Cluster) where
  title := "struct ClusterList"
  fields := [⟨"items", Shape.list shape, some []⟩]

/-- The answer to a request for clusters. -/
def listShape : Shape (List Cluster) := listRecord.shape.map List.flatten

end Cluster

/-- Clusters by id, each id once. -/
structure ClusterIndex where
  entries : List Cluster
  deriving Repr, DecidableEq, Inhabited

namespace ClusterIndex

def empty : ClusterIndex := ⟨[]⟩

/-- Adds a cluster, in the place of the one that had its id. -/
def insert (c : Cluster) (index : ClusterIndex) : ClusterIndex :=
  ⟨index.entries.filter (·.id ≠ c.id) ++ [c]⟩

def ofList (clusters : List Cluster) : ClusterIndex :=
  clusters.foldl (fun index c => index.insert c) empty

def find? (index : ClusterIndex) (id : String) : Option Cluster :=
  index.entries.find? (·.id = id)

def size (index : ClusterIndex) : Nat := index.entries.length

def isEmpty (index : ClusterIndex) : Bool := index.entries.isEmpty

theorem find?_insert_self (c : Cluster) (index : ClusterIndex) :
    (index.insert c).find? c.id = some c := by
  have h : (index.entries.filter (·.id ≠ c.id)).find? (·.id = c.id) = none := by
    simp only [List.find?_eq_none, List.mem_filter]
    intro x hx
    simpa using hx.2
  unfold find? insert
  rw [List.find?_append, h]
  simp

theorem find?_insert_of_ne {c : Cluster} {id : String} (h : id ≠ c.id) (index : ClusterIndex) :
    (index.insert c).find? id = index.find? id := by
  unfold find? insert
  rw [List.find?_append, List.find?_filter]
  have he : (fun x : Cluster => (!decide (x.id = c.id)) && decide (x.id = id))
      = fun x : Cluster => decide (x.id = id) := by
    funext x
    by_cases hx : x.id = id
    · simp [hx, h]
    · simp [hx]
  simp [he, h.symm]

end ClusterIndex

end Roster
