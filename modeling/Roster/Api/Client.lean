import Roster.Api.Endpoint
import Roster.Api.Error
import Roster.Fleet.Page
import Roster.Fleet.Cluster
import Roster.Http.Network
import Roster.Http.Proxy
import Roster.Text.Blank
import Roster.Text.Quoted
/-!
# The client

A client knows the two APIs, the instance list and the cluster list, and the tokens for them. It is
only made with a token, with addresses that both make sense, and with a proxy that does.
-/

namespace Roster

structure Client where
  instancesBase : String
  clustersBase : String
  token : String
  /-- Sent to the cluster API in place of the token. -/
  clusterToken : Option String
  deriving Repr, DecidableEq

namespace Client

/-- Refuses a base with which a list has no address. -/
def checkBase (base path : String) : Except ApiError Unit :=
  match Endpoint.url base path .default with
  | .ok _ => .ok ()
  | .error reason => .error (.invalidUrl base reason)

/-- Refuses a proxy that makes no sense. -/
def checkProxy (env : Environment) : Except ApiError Unit :=
  match Http.Proxy.refusal? env with
  | none => .ok ()
  | some what => .error (.transport what)

/-- A client, unless the token is blank or an address or the proxy is malformed, in this order. -/
def create (env : Environment) (instancesBase clustersBase token : String) :
    Except ApiError Client := do
  if Text.allBlank token then throw .missingToken
  checkBase instancesBase Endpoint.instancesPath
  checkBase clustersBase Endpoint.clustersPath
  checkProxy env
  .ok ⟨instancesBase, clustersBase, token, none⟩

/-- A token for the cluster API alone; a blank one is ignored. -/
def withClusterToken (c : Client) (token : String) : Client :=
  if Text.allBlank token then c else { c with clusterToken := some token }

/-- The token that the cluster API is given. -/
def effectiveClusterToken (c : Client) : String := c.clusterToken.getD c.token

/-- A client without its secrets. -/
def describe (c : Client) : String :=
  "HttpManagementApi \x7b kafka_api_url: " ++ Text.quoted c.instancesBase ++ ", cluster_api_url: " ++
    Text.quoted c.clustersBase ++ ", .. \x7d"

/-! ### Calls -/

/-- What came of a call, the requests it sent, and the network afterwards. -/
structure Answer (α : Type) where
  result : Except ApiError α
  sent : List Http.Sent
  network : Http.Network

/-- The request for an address. -/
def request (url : Url) (token : String) : Except Http.InvalidRequest Http.Request :=
  Http.Request.build "GET" url.text
    [("authorization", "Bearer " ++ token), ("accept", "application/json")] []

/-- Gets a value from an address. -/
def get {α : Type} (decode : Json.Bytes → Except Json.Refusal α) (net : Http.Network) (url : Url)
    (token : String) : Answer α :=
  match request url token with
  | .error reason => ⟨.error (.request reason), [], net⟩
  | .ok r =>
    let o := net.send r
    let result := match o.result with
      | .error failure => .error (.transport failure.message)
      | .ok response => Response.value decode response.status response.body
    ⟨result, o.sent, o.network⟩

/-- Gets a page of a list. -/
def list {α : Type} (decode : Json.Bytes → Except Json.Refusal α) (net : Http.Network)
    (base path token : String) (params : ListParams) : Answer α :=
  match Endpoint.url base path params with
  | .error reason => ⟨.error (.invalidUrl base reason), [], net⟩
  | .ok url => get decode net url token

def listInstances (c : Client) (net : Http.Network) (params : ListParams) : Answer Page :=
  list Page.ofBytes net c.instancesBase Endpoint.instancesPath c.token params

def listClusters (c : Client) (net : Http.Network) (params : ListParams) : Answer (List Cluster) :=
  list (Response.read Cluster.listShape) net c.clustersBase Endpoint.clustersPath
    c.effectiveClusterToken params

end Client

end Roster
