import Roster.Fleet.Instance
import Roster.Fleet.Cluster
/-!
# Rows

A row shows one instance, with the cluster it runs on by name and id. The instance selected in the
current context carries a marker behind its name.
-/

namespace Roster

/-- One line of the table. -/
structure Row where
  id : String
  name : String
  owner : String
  status : String
  provider : String
  region : String
  cluster : String
  deriving Repr, DecidableEq

/-- The fixed texts of rows. -/
structure Labels where
  /-- Stands behind the name of the selected instance. -/
  marker : String
  /-- Stands for the cluster of an instance without one. -/
  hosted : String
  deriving Repr, DecidableEq

/-- A selection that selects nothing. -/
def noSelection : String := "-"

namespace Row

/-- The cluster column: the cluster is only named when it was returned. -/
def clusterLabel (labels : Labels) (index : ClusterIndex) (i : Instance) : String :=
  match i.cluster with
  | none => labels.hosted
  | some id =>
    match index.find? id with
    | some c => c.name ++ " (" ++ c.id ++ ")"
    | none => "unknown (" ++ id ++ ")"

/-- The name column. -/
def nameLabel (labels : Labels) (selected : Option String) (i : Instance) : String :=
  if selected = some i.id then i.name ++ " " ++ labels.marker else i.name

/-- One row for an instance; `selected` has already been cleared of the empty selection. -/
def ofInstance (labels : Labels) (index : ClusterIndex) (selected : Option String) (i : Instance) :
    Row where
  id := i.id
  name := nameLabel labels selected i
  owner := i.owner
  status := i.status
  provider := i.provider
  region := i.region
  cluster := clusterLabel labels index i

/-- The rows of a list of instances, in its order. -/
def ofInstances (labels : Labels) (index : ClusterIndex) (selected : Option String)
    (items : List Instance) : List Row :=
  items.map (ofInstance labels index (selected.filter (· ≠ noSelection)))

/-- The names of the columns. -/
def header : List String :=
  ["ID", "Name", "Owner", "Status", "Cloud Provider", "Region", "Openshift Cluster"]

def cells (r : Row) : List String :=
  [r.id, r.name, r.owner, r.status, r.provider, r.region, r.cluster]

end Row

end Roster
