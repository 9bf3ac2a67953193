import Roster.Api.Endpoint
import Roster.Proofs.Outcome
import Roster.Proofs.Text.Blank
import Roster.Proofs.Url.Form
/-!
# What an address says of a call

The query of an address is read back as the parameters of the base, and behind them those of the call
with their exact texts, whatever characters these have.
-/

namespace Roster

namespace Endpoint

theorem trimBase_append_slashes (base : String) (n : Nat) :
    trimBase (base ++ String.ofList (List.replicate n '/')) = trimBase base := by
  unfold trimBase
  rw [String.toList_append, String.toList_ofList]
  exact Text.dropTail_append_replicate (by decide) base.toList n

theorem url_append_slashes (base path : String) (params : ListParams) (n : Nat) :
    url (base ++ String.ofList (List.replicate n '/')) path params = url base path params := by
  unfold url
  rw [trimBase_append_slashes]

theorem url_eq_ok_iff {base path : String} {params : ListParams} {u : Url} :
    url base path params = .ok u ↔
      ∃ parsed, Url.parse (trimBase base ++ path.toList) = .ok parsed ∧
        withPairs parsed params.pairs = u := by
  unfold url
  rw [bind_eq_ok_iff]
  simp only [Except.ok.injEq]

/-- **The parameters of an address.** They are those of the base with its path, then the page, its
size and the filter if there is one. Apart from its query the address is the base with its path, and
slashes at the end of the base make no difference. -/
theorem parameters_of_url {base path : String} {params : ListParams} {u : Url}
    (h : url base path params = .ok u) :
    ∃ (parsed : Url) (query : List Char),
      Url.parse (trimBase base ++ path.toList) = .ok parsed ∧
      u = { parsed with query := some query } ∧
      Url.Form.decodePairs query =
        Url.Form.decodePairs (parsed.query.getD []) ++
          ([(Url.utf8 "page".toList, Url.utf8 (Nat.toDigits 10 params.page)),
            (Url.utf8 "size".toList, Url.utf8 (Nat.toDigits 10 params.size))] ++
          match params.search with
          | some search => [(Url.utf8 "search".toList, Url.utf8 search.toList)]
          | none => []) ∧
      ∀ n, url (base ++ String.ofList (List.replicate n '/')) path params = .ok u := by
  obtain ⟨parsed, hparsed, rfl⟩ := url_eq_ok_iff.mp h
  refine ⟨parsed, Url.Form.appendAll (parsed.query.getD []) params.pairs, hparsed, rfl, ?_, ?_⟩
  · rw [Url.Form.decodePairs_appendAll, ListParams.pairs, List.map_append]
    cases params.search <;> rfl
  · intro n
    rw [url_append_slashes, h]

/-- A base with parameters of its own and a fragment, and a filter that looks encoded. -/
theorem parameters_of_url_encoded :
    ∃ u query, url "http://[::1]/p?x=%2&&y=+#top" "/q" ⟨2, 25, some "%41+é&="⟩ = .ok u ∧
      u.query = some query ∧
      Url.Form.decodePairs query =
        [(Url.utf8 "x".toList, Url.utf8 "%2".toList), (Url.utf8 "y".toList, Url.utf8 " ".toList),
          (Url.utf8 "page".toList, Url.utf8 "2".toList),
          (Url.utf8 "size".toList, Url.utf8 "25".toList),
          (Url.utf8 "search".toList, Url.utf8 "%41+é&=".toList)] := by
  have hbase : Url.parse (trimBase "http://[::1]/p?x=%2&&y=+#top" ++ "/q".toList) =
      .ok ⟨"http".toList, some ⟨[], [], "[::1]".toList, none⟩, "/p".toList,
        some "x=%2&&y=+".toList, some "top/q".toList⟩ := rfl
  have hurl : url "http://[::1]/p?x=%2&&y=+#top" "/q" ⟨2, 25, some "%41+é&="⟩ = .ok _ :=
    url_eq_ok_iff.mpr ⟨_, hbase, rfl⟩
  obtain ⟨parsed, query, hparsed, hu, hpairs, -⟩ := parameters_of_url hurl
  obtain rfl := Except.ok.inj (hbase.symm.trans hparsed)
  refine ⟨_, query, hurl, congrArg Url.query hu, ?_⟩
  have hown : Url.Form.decodePairs "x=%2&&y=+".toList =
      [(Url.utf8 "x".toList, Url.utf8 "%2".toList), (Url.utf8 "y".toList, Url.utf8 " ".toList)] := by
    decide +kernel
  rw [hpairs, Option.getD_some, hown]
  rfl

end Endpoint

end Roster
