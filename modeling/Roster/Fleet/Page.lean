import Roster.Fleet.Instance
/-!
# Pages of instances

A page is kept as the document that was received, next to the instances read from it. Showing the
document reproduces it, with unknown members and explicit nulls; tables are made from the instances.
-/

namespace Roster

structure Page where
  document : Json
  items : List Instance

namespace Page

open Json

/-- The one member of a page that is read. -/
def record : Record (List Instance) where
  title := "struct KafkaItems"
  fields := [⟨"items", Shape.list Instance.shape, some []⟩]

/-- A page from its document, which is kept as it is. -/
def ofJson (document : Json) : Except Mismatch Page := do
  .ok ⟨document, (← record.ofJson document).flatten⟩

/-- A page from text. The document is read first and then taken for a page, so a document of the
wrong shape is refused without a place in the text; only then does anything behind the document
count. -/
def ofBytes (text : Bytes) : Except Refusal Page := do
  let (document, rest) ← (readValue maxDepth text).mapError (·.refusal text)
  let page ← (ofJson document).mapError .ofMismatch
  (endDocument rest).mapError (·.refusal text)
  .ok page

def isEmpty (page : Page) : Bool := page.items.isEmpty

end Page

end Roster
