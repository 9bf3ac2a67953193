import Roster.Settings.Connection
import Roster.Proofs.Api.Client
/-!
# Addresses of calls

Whether a base makes sense does not depend on what is asked: parameters are put behind an address
that has been read. So a client that could be made has an address for each of its calls, and no call
fails for want of one.
-/

namespace Roster

namespace Endpoint

variable {base path : String}

/-- A base has an address for every list if it has one for some. -/
theorem exists_url {params : ListParams} {u : Url} (h : url base path params = .ok u)
    (other : ListParams) : ∃ u', url base path other = .ok u' := by
  obtain ⟨parsed, hparsed, -⟩ := bind_eq_ok_iff.mp h
  exact ⟨withPairs parsed other.pairs, bind_eq_ok_iff.mpr ⟨parsed, hparsed, rfl⟩⟩

end Endpoint

/-- Errors that say that no request can be made: there is no token, or a base makes no sense. -/
inductive ApiError.BeforeRequests : ApiError → Prop
  | missingToken : BeforeRequests .missingToken
  | invalidUrl (base : String) (reason : Url.Invalid) : BeforeRequests (.invalidUrl base reason)

namespace Client

/-! ### Clients that can be made -/

/-- The clients that can be made: from a token, and with a token for the cluster API. -/
inductive Built : Client → Prop
  | create {env : Environment} {instancesBase clustersBase token : String} {c : Client}
      (h : create env instancesBase clustersBase token = .ok c) : Built c
  | withClusterToken {c : Client} (h : Built c) (token : String) : Built (c.withClusterToken token)

/-- A client has an address for each of its calls. -/
structure HasAddresses (c : Client) : Prop where
  instances : ∀ params, ∃ u, Endpoint.url c.instancesBase Endpoint.instancesPath params = .ok u
  clusters : ∀ params, ∃ u, Endpoint.url c.clustersBase Endpoint.clustersPath params = .ok u

theorem exists_url_of_checkBase {base path : String} (h : checkBase base path = .ok ())
    (params : ListParams) : ∃ u, Endpoint.url base path params = .ok u := by
  unfold checkBase at h
  split at h
  · next u hu => exact Endpoint.exists_url hu params
  · contradiction

theorem hasAddresses_of_create {env : Environment} {instancesBase clustersBase token : String}
    {c : Client} (h : create env instancesBase clustersBase token = .ok c) : c.HasAddresses := by
  obtain ⟨hchecks, rfl⟩ := create_eq_ok h
  obtain ⟨_, hinstances, hchecks⟩ := bind_eq_ok_iff.mp hchecks
  obtain ⟨_, hclusters, -⟩ := bind_eq_ok_iff.mp hchecks
  exact ⟨exists_url_of_checkBase hinstances, exists_url_of_checkBase hclusters⟩

/-- Another token leaves the addresses as they are. -/
theorem HasAddresses.withClusterToken {c : Client} (h : c.HasAddresses) (token : String) :
    (c.withClusterToken token).HasAddresses := by
  unfold Client.withClusterToken
  split
  · exact h
  · exact ⟨h.instances, h.clusters⟩

theorem Built.hasAddresses {c : Client} (h : c.Built) : c.HasAddresses := by
  induction h with
  | create hcreate => exact hasAddresses_of_create hcreate
  | withClusterToken _ token ih => exact ih.withClusterToken token

/-! ### Errors of calls -/

theorem not_beforeRequests_value {α : Type} {decode : Json.Bytes → Except Json.Refusal α}
    {code : Nat} {body : Json.Bytes} {e : ApiError}
    (h : Response.value decode code body = .error e) : ¬e.BeforeRequests := by
  unfold Response.value at h
  split at h
  · obtain ⟨_, -, rfl⟩ := mapError_eq_error_iff.mp h
    nofun
  · obtain rfl := Except.error.inj h
    unfold Response.failure ApiError.ofStatus
    split
    · nofun
    · split <;> nofun

/-- A call that has an address fails because of the request, on the way or by the answer. -/
theorem not_beforeRequests_list {α : Type} {decode : Json.Bytes → Except Json.Refusal α}
    {net : Http.Network} {base path token : String} {params : ListParams} {e : ApiError}
    (haddress : ∃ u, Endpoint.url base path params = .ok u)
    (h : (list decode net base path token params).result = .error e) : ¬e.BeforeRequests := by
  obtain ⟨u, hu⟩ := haddress
  simp only [list, hu, get] at h
  split at h
  · obtain rfl := Except.error.inj h
    nofun
  · dsimp only at h
    split at h
    · obtain rfl := Except.error.inj h
      nofun
    · exact not_beforeRequests_value h

theorem Built.not_beforeRequests_instances {c : Client} (hc : c.Built) {net : Http.Network}
    {params : ListParams} {e : ApiError} (h : (c.listInstances net params).result = .error e) :
    ¬e.BeforeRequests :=
  not_beforeRequests_list (hc.hasAddresses.instances params) h

theorem Built.not_beforeRequests_clusters {c : Client} (hc : c.Built) {net : Http.Network}
    {params : ListParams} {e : ApiError} (h : (c.listClusters net params).result = .error e) :
    ¬e.BeforeRequests :=
  not_beforeRequests_list (hc.hasAddresses.clusters params) h

end Client

/-- A client that has connected is one that can be made. -/
theorem Connection.built_of_connect {env : Environment} {config : Config} {overrides : Overrides}
    {c : Client} (h : Connection.connect env config overrides = .ok c) : c.Built := by
  unfold Connection.connect at h
  obtain ⟨made, hmade, h⟩ := bind_eq_ok_iff.mp h
  have hbuilt : made.Built := .create hmade
  split at h
  · next token _ =>
    obtain rfl := Except.ok.inj h
    exact hbuilt.withClusterToken token
  · obtain rfl := Except.ok.inj h
    exact hbuilt

end Roster
