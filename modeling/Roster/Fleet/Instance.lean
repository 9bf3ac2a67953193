import Roster.Json.Record
/-!
# Kafka instances

What the program reads of an instance: seven texts, of which only the id has to be given. An
instance without a cluster runs on infrastructure of the service.
-/

namespace Roster

/-- One Kafka instance. Texts that were not given are empty. -/
structure Instance where
  id : String
  name : String
  owner : String
  status : String
  provider : String
  region : String
  /-- The dedicated cluster it runs on. -/
  cluster : Option String
  deriving Repr, DecidableEq, Inhabited

namespace Instance

open Json

/-- A text that counts as empty when it is absent. -/
def plain (name : String) : Json.Field (Option String) :=
  ⟨name, Shape.text.map some, some (some "")⟩

/-- The fields of an instance in the order in which they may be listed. -/
def record : Record (Option String) where
  title := "struct KafkaRequest"
  fields :=
    [⟨"id", Shape.text.map some, none⟩, plain "name", plain "owner", plain "status",
      plain "cloud_provider", plain "region", ⟨"cluster_id", Shape.text.nullable, some none⟩]

/-- An instance from the values of the fields. -/
def ofFields : List (Option String) → Instance
  | [id, name, owner, status, provider, region, cluster] =>
    ⟨id.getD "", name.getD "", owner.getD "", status.getD "", provider.getD "", region.getD "",
      cluster⟩
  | _ => default

def shape : Shape Instance := record.shape.map ofFields

end Instance

end Roster
