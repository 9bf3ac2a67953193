import Roster.Fleet.Lookup
import Roster.Fleet.Search
import Roster.Fleet.Table
import Roster.Fleet.Terminal
import Roster.Listing.Format
import Roster.Listing.Plan
/-!
# Listing instances

One page of instances is asked for. As a document it is printed as it was received. As a table its
instances are shown with their clusters, for which the selection is read and the clusters are looked
up; a page without instances is only said to be empty. Nothing is printed before all this has
succeeded.
-/

namespace Roster.Listing

variable {σ : Type}

structure Request where
  page : Nat
  limit : Nat
  search : String
  format : Format
  deriving Repr, DecidableEq

/-- What the instance list is asked for. -/
def Request.params (r : Request) : ListParams := ⟨r.page, r.limit, Search.query r.search⟩

def fetch (r : Request) : Plan σ Page := Plan.getInstances r.params

/-- Looks up the clusters of instances, if any are referenced. -/
def resolve (items : List Instance) : Plan σ ClusterIndex :=
  match Lookup.params? items with
  | none => return .empty
  | some params => return .ofList (← Plan.getClusters params)

/-- What is said when there are no instances. -/
def emptyMessage : String := "No Kafka instances were found."

/-- The table of the instances of a page. -/
def table (labels : Labels) (selected : Option String) (items : List Instance)
    (index : ClusterIndex) : String :=
  (Table.ofRows (Row.ofInstances labels index selected items)).render [] false

/-- Shows instances as a table. -/
def showTable (labels : Labels) (items : List Instance) : Plan σ Unit := do
  let selected ← Plan.getSelection
  let index ← resolve items
  Plan.say (table labels selected items index)

def plan (labels : Labels) (r : Request) : Plan σ Unit := do
  let page ← fetch r
  if r.format ≠ .table then Plan.say (r.format.document page.document)
  else if page.isEmpty then Plan.say (emptyMessage ++ "\n")
  else showTable labels page.items

end Roster.Listing
