import Roster.Api.Endpoint
import Roster.Fleet.Instance
import Roster.Fleet.Cluster
/-!
# Looking up clusters

The clusters that a page of instances runs on are asked for in one request: each id once, in
ascending order, one clause for each, and a page that has room for all of them.
-/

namespace Roster.Lookup

/-- Adds an id to an ascending list in which each id stands once. -/
def insertId (id : String) : List String → List String
  | [] => [id]
  | other :: rest =>
    if id < other then id :: other :: rest
    else if id = other then other :: rest
    else other :: insertId id rest

/-- The ids of the clusters that instances run on, ascending and each once. -/
def ids (items : List Instance) : List String :=
  (items.filterMap (·.cluster)).foldr insertId []

def clause (id : String) : String := "id = '" ++ id ++ "'"

/-- The filter for some ids. -/
def filter (ids : List String) : String := " or ".intercalate (ids.map clause)

/-- What to ask the cluster list for; nothing when no instance runs on a dedicated cluster. -/
def params? (items : List Instance) : Option ListParams :=
  let ids := ids items
  if ids.isEmpty then none
  else some ⟨ListParams.firstPage, min ids.length ListParams.maxCount, some (filter ids)⟩

theorem mem_insertId {id other : String} {ids : List String} :
    other ∈ insertId id ids ↔ other = id ∨ other ∈ ids := by
  induction ids with
  | nil => simp [insertId]
  | cons first rest ih =>
    unfold insertId
    split
    · simp
    · split
      · next h => subst h; simp
      · simp only [List.mem_cons, ih]
        constructor
        · rintro (h | h | h) <;> simp_all
        · rintro (h | h | h) <;> simp_all

/-- Exactly the ids that are referenced. -/
theorem mem_ids {id : String} {items : List Instance} :
    id ∈ ids items ↔ ∃ i ∈ items, i.cluster = some id := by
  have step : ∀ names : List String, id ∈ names.foldr insertId [] ↔ id ∈ names := by
    intro names
    induction names with
    | nil => simp
    | cons n rest ih => simp [mem_insertId, ih]
  simp [ids, step, List.mem_filterMap]

end Roster.Lookup
