import Roster.Proofs.Api.Address
import Roster.Proofs.Api.Parameters
import Roster.Proofs.Text.Blank
import Roster.Proofs.Url.Parser
/-!
# Where an address has the path of a list

The path of a list is written behind the text of a base before that text is read. So it is taken in
by a query or a fragment of the base, and its first segment is taken for a host if the base ends where
a host should stand. Then the address is one of something else, and still a client is made with the
base. In all other cases, also when the base has no host at all, the path of the list ends the path
of the address.
-/

namespace Roster

namespace Endpoint

/-- Whether the text of a base has a query or a fragment. -/
def hasTail (base : String) : Bool := Url.hasTail base.toList

/-- Whether a base ends where a host should stand. Behind its scheme there are slashes alone: any
number of them if the scheme is one of the web, and else a single one, to which the path of a list
adds the second. A base without a host, as `mailto:x` or `foo:`, need not be one of these. -/
def lacksHost (base : String) : Bool := Url.awaitsHost (trimBase base)

theorem hasTail_trimBase (base : String) : Url.hasTail (trimBase base) = hasTail base := by
  unfold hasTail trimBase
  rw [Bool.eq_iff_iff, Url.hasTail_iff, Url.hasTail_iff, Text.mem_dropTail (by decide),
    Text.mem_dropTail (by decide)]

/-- Paths of at least two plain segments. -/
def PlainPath (path : String) : Prop :=
  ∃ host segments, path.toList = Url.joinSegments (host :: segments) ∧ Url.Plain host ∧
    segments ≠ [] ∧ ∀ s ∈ segments, Url.Plain s

theorem plainPath_instances : PlainPath instancesPath :=
  ⟨"api".toList, ["kafkas_mgmt".toList, "v1".toList, "kafkas".toList], by decide⟩

theorem plainPath_clusters : PlainPath clustersPath :=
  ⟨"api".toList, ["clusters_mgmt".toList, "v1".toList, "clusters".toList], by decide⟩

/-- Where the path of a list is in an address. -/
def Places (base path : String) (params : ListParams) (u : Url) : Prop :=
  if hasTail base then
    (∃ f, u.fragment = some f ∧ path.toList <:+ f) ∨
      ∃ q, u.query = some (Url.Form.appendAll q params.pairs) ∧ path.toList <:+ q
  else path.toList <:+ u.path ↔ lacksHost base = false

theorem places_url {base path : String} {params : ListParams} {u : Url} (hpath : PlainPath path)
    (h : url base path params = .ok u) : Places base path params u := by
  obtain ⟨host, segments, hjoin, hhost, hne, hplain⟩ := hpath
  obtain ⟨parsed, hparsed, rfl⟩ := url_eq_ok_iff.mp h
  rw [hjoin] at hparsed
  have hmore : ∀ s ∈ host :: segments, Url.Plain s := List.forall_mem_cons.mpr ⟨hhost, hplain⟩
  unfold Places
  rw [hjoin]
  cases hlost : lacksHost base with
  | true =>
      have htail := Url.hasTail_of_awaitsHost hlost
      rw [hasTail_trimBase] at htail
      have hno := Url.not_suffix_of_parse hhost hplain hne hlost hparsed
      rw [htail, if_neg Bool.false_ne_true]
      exact iff_of_false hno (by decide)
  | false =>
      have hattached := Url.attached_of_parse hmore (List.cons_ne_nil _ _) hlost hparsed
      rw [Url.Attached, hasTail_trimBase] at hattached
      split at hattached
      · next htail =>
        rw [if_pos htail]
        obtain ⟨part, hpart, hsuffix⟩ := hattached
        cases hfragment : parsed.fragment with
        | some f =>
            rw [hfragment, Option.some_or] at hpart
            obtain rfl := Option.some.inj hpart
            exact .inl ⟨f, hfragment, hsuffix⟩
        | none =>
            rw [hfragment, Option.none_or] at hpart
            exact .inr ⟨part, by rw [withPairs, hpart, Option.getD_some], hsuffix⟩
      · next htail =>
        rw [if_neg htail]
        exact iff_of_true hattached rfl

end Endpoint

namespace Client

/-- **Where the paths of the lists are.** A client has an address for each list, whatever is asked
for. The path of the list ends the path of the address exactly if the base does not end where a host
should stand, but a query or a fragment of the base takes it in. -/
theorem places_of_create {env : Environment} {instancesBase clustersBase token : String} {c : Client}
    (h : create env instancesBase clustersBase token = .ok c) (params : ListParams) :
    ∃ u v, Endpoint.url c.instancesBase Endpoint.instancesPath params = .ok u ∧
      Endpoint.url c.clustersBase Endpoint.clustersPath params = .ok v ∧
      Endpoint.Places instancesBase Endpoint.instancesPath params u ∧
      Endpoint.Places clustersBase Endpoint.clustersPath params v := by
  have haddresses := hasAddresses_of_create h
  obtain ⟨-, rfl⟩ := create_eq_ok h
  obtain ⟨u, hu⟩ := haddresses.instances params
  obtain ⟨v, hv⟩ := haddresses.clusters params
  exact ⟨u, v, hu, hv, Endpoint.places_url Endpoint.plainPath_instances hu,
    Endpoint.places_url Endpoint.plainPath_clusters hv⟩

theorem places_of_create_query :
    ∃ c u v, create .empty "http://[::1]/p/" "http://[::1]?x=1" "t" = .ok c ∧
      Endpoint.url c.instancesBase Endpoint.instancesPath .default = .ok u ∧
      Endpoint.url c.clustersBase Endpoint.clustersPath .default = .ok v ∧
      Endpoint.instancesPath.toList <:+ u.path ∧
      ∃ q, v.query = some (Url.Form.appendAll q ListParams.default.pairs) ∧
        Endpoint.clustersPath.toList <:+ q := by
  have hcreate : create .empty "http://[::1]/p/" "http://[::1]?x=1" "t" =
      .ok ⟨"http://[::1]/p/", "http://[::1]?x=1", "t", none⟩ := rfl
  have hurl : Endpoint.url "http://[::1]?x=1" Endpoint.clustersPath .default =
      .ok ⟨"http".toList, some ⟨[], [], "[::1]".toList, none⟩, "/".toList,
        some "x=1/api/clusters_mgmt/v1/clusters&page=1&size=10".toList, none⟩ := rfl
  obtain ⟨u, v, hu, hv, hinstances, hclusters⟩ := places_of_create hcreate .default
  refine ⟨_, u, v, hcreate, hu, hv, ?_, ?_⟩
  · rw [Endpoint.Places, if_neg (by decide +kernel)] at hinstances
    exact hinstances.mpr (by decide +kernel)
  · rw [Endpoint.Places, if_pos (by decide +kernel)] at hclusters
    rcases hclusters with ⟨f, hfragment, -⟩ | hquery
    · obtain rfl := Except.ok.inj (hurl.symm.trans hv)
      contradiction
    · exact hquery

/-- A client whose address of the instance list is that of something else. -/
theorem create_takes_query :
    create .empty "http://[::1]?x=1" "http://[::1]" "t" =
        .ok ⟨"http://[::1]?x=1", "http://[::1]", "t", none⟩ ∧
      ∃ u, Endpoint.url "http://[::1]?x=1" Endpoint.instancesPath .default = .ok u ∧
        u.path = "/".toList ∧ ¬Endpoint.instancesPath.toList <:+ u.path := by
  have hurl : Endpoint.url "http://[::1]?x=1" Endpoint.instancesPath .default =
      .ok ⟨"http".toList, some ⟨[], [], "[::1]".toList, none⟩, "/".toList,
        some "x=1/api/kafkas_mgmt/v1/kafkas&page=1&size=10".toList, none⟩ := rfl
  exact ⟨rfl, _, hurl, rfl, by decide +kernel⟩

end Client

end Roster
