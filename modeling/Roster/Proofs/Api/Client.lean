import Roster.Api.Client
import Roster.Proofs.Outcome
/-!
# Making a client

A blank token is refused before anything else. With any other token, what is checked of a client
does not depend on it.
-/

namespace Roster.Client

variable {env : Environment} {instancesBase clustersBase token : String}

/-- What is checked of a client besides its token. -/
def checks (env : Environment) (instancesBase clustersBase : String) : Except ApiError Unit := do
  checkBase instancesBase Endpoint.instancesPath
  checkBase clustersBase Endpoint.clustersPath
  checkProxy env

theorem create_of_blank (hblank : Text.allBlank token = true) :
    create env instancesBase clustersBase token = .error .missingToken := by
  unfold create
  rw [hblank]
  rfl

theorem create_of_token (hblank : Text.allBlank token = false) :
    create env instancesBase clustersBase token =
      (checks env instancesBase clustersBase).map fun _ =>
        ⟨instancesBase, clustersBase, token, none⟩ := by
  unfold create checks
  rw [hblank]
  cases checkBase instancesBase Endpoint.instancesPath with
  | error e => rfl
  | ok _ =>
      cases checkBase clustersBase Endpoint.clustersPath with
      | error e => rfl
      | ok _ => cases checkProxy env <;> rfl

theorem withClusterToken_eq {c : Client} {token : String} (hblank : Text.allBlank token = false) :
    c.withClusterToken token = { c with clusterToken := some token } := by
  rw [withClusterToken, if_neg (by simp [hblank])]

/-- What holds of a client that could be made. -/
theorem create_eq_ok {c : Client} (h : create env instancesBase clustersBase token = .ok c) :
    checks env instancesBase clustersBase = .ok () ∧
      c = ⟨instancesBase, clustersBase, token, none⟩ := by
  cases hblank : Text.allBlank token with
  | true =>
      rw [create_of_blank hblank] at h
      contradiction
  | false =>
      rw [create_of_token hblank] at h
      obtain ⟨_, hchecks, rfl⟩ := map_eq_ok_iff.mp h
      exact ⟨hchecks, rfl⟩

end Roster.Client
