import Roster.Proofs.Api.Calls
import Roster.Proofs.Api.Parameters
import Roster.Proofs.Http.Uri
/-!
# Parameters on the wire

The address of a call is written into a request, checked, and read again before anything is sent. Only
addresses of the web are reached, and what is sent to one of these goes to the address of the call:
neither the check nor the reading changes anything of it but the way its host is written.
-/

namespace Roster

open Http Url

/-! ### Only the web is reached -/

theorem Url.kindOf_eq_web {scheme : List Char}
    (h : ¬(String.ofList scheme ≠ "http" ∧ String.ofList scheme ≠ "https")) :
    kindOf scheme = .web := by
  rw [not_and_or, not_not, not_not] at h
  have hscheme : scheme = "http".toList ∨ scheme = "https".toList :=
    h.imp (fun h => by rw [← h, String.toList_ofList]) (fun h => by rw [← h, String.toList_ofList])
  rcases hscheme with rfl | rfl <;> decide

theorem Http.kind_of_mem_exchange (first : Url) (left : Nat) (replies : List Reply) (s : Sent) :
    ∀ t ∈ (exchange first left replies s).sent, kindOf t.url.scheme = .web := by
  fun_induction exchange first left replies s with
  | case1 => exact List.forall_mem_nil _
  | case2 | case3 | case4 | case6 | case7 | case8 =>
      exact List.forall_mem_singleton.mpr (kindOf_eq_web (by assumption))
  | case5 _ _ _ _ _ _ _ _ _ _ _ _ _ ih =>
      exact List.forall_mem_cons.mpr ⟨kindOf_eq_web (by assumption), ih⟩

theorem Http.kind_of_mem_send (net : Network) (r : Request) :
    ∀ t ∈ (net.send r).sent, kindOf t.url.scheme = .web := by
  unfold Network.send
  split
  · exact nofun
  split
  · exact nofun
  · dsimp only
    split
    · exact nofun
    split
    · exact nofun
    · exact kind_of_mem_exchange _ _ _ _

theorem Client.kind_of_mem_list {α : Type} (decode : Json.Bytes → Except Json.Refusal α)
    (net : Network) (base path token : String) (params : ListParams) :
    ∀ t ∈ (list decode net base path token params).sent, kindOf t.url.scheme = .web := by
  unfold list
  split
  · exact nofun
  · unfold get
    split
    · exact nofun
    · exact kind_of_mem_send _ _

/-! ### What a call asks for -/

/-- The parts of an address in their order. What stands between scheme and query is an authority, if
there is one, and a path. -/
theorem Endpoint.text_withPairs (u : Url) (pairs : List (List Char × List Char)) :
    ∃ front, (withPairs u pairs).text =
        String.ofList (u.scheme ++ ':' :: (front ++ '?' ::
          (Form.appendAll (u.query.getD []) pairs ++ fragmentText u.fragment))) ∧
      ∀ a, u.authority = some a → front = '/' :: '/' :: (a.text ++ u.path) := by
  unfold Url.text Url.chars Url.origin withPairs Url.queryText
  dsimp only
  cases u.authority with
  | none =>
      refine ⟨(if "//".toList.isPrefixOf u.path then ['/', '.'] else []) ++ u.path, ?_, ?_⟩
      · simp only [List.append_assoc, List.cons_append]
      · intro a ha
        contradiction
  | some a =>
      refine ⟨'/' :: '/' :: (a.text ++ u.path), ?_, ?_⟩
      · simp only [List.append_assoc, List.cons_append]
      · intro b hb
        rw [Option.some.inj hb]

namespace Client

/-- A request says in its query, behind what the base says there, which page of a list it is for, with
which size and filter. -/
def Says (base path : String) (params : ListParams) (s : Sent) : Prop :=
  ∃ (parsed : Url) (query : List Char),
    Url.parse (Endpoint.trimBase base ++ path.toList) = .ok parsed ∧ s.url.query = some query ∧
    Form.decodePairs query =
      Form.decodePairs (parsed.query.getD []) ++
        ([(utf8 "page".toList, utf8 (Nat.toDigits 10 params.page)),
          (utf8 "size".toList, utf8 (Nat.toDigits 10 params.size))] ++
        match params.search with
        | some search => [(utf8 "search".toList, utf8 search.toList)]
        | none => [])

/-- The first of some requests says which page it is for; the others are made by following
redirections. -/
def SaysFirst (base path : String) (params : ListParams) (sent : List Sent) : Prop :=
  ∀ s rest, sent = s :: rest → Says base path params s ∧ s.Chain rest

/-- A request goes to an address: its scheme, user, password, port, path and query are those of the
address, and its host is the one that is read from what the address has written there. -/
def GoesTo (url : Url) (s : Sent) : Prop :=
  ∃ a host, url.authority = some a ∧ readHost a.host = .ok host ∧
    s.url = { url with authority := some { a with host := host }, fragment := none }

/-- **Where a call goes.** On the web what is sent goes to the address of the call, however the check
took it apart and whatever is read again. -/
theorem Asks.goesTo {base path token : String} {params : ListParams} {s : Sent}
    (h : Asks base path token params s) (hweb : kindOf s.url.scheme = .web) :
    ∃ url, Endpoint.url base path params = .ok url ∧ GoesTo url s := by
  obtain ⟨url, target, hurl, htarget, hread⟩ := h.address
  refine ⟨url, hurl, ?_⟩
  obtain ⟨parsed, hparsed, rfl⟩ := Endpoint.url_eq_ok_iff.mp hurl
  obtain ⟨front, htext, hlocated⟩ := Endpoint.text_withPairs parsed params.pairs
  rw [htext] at htarget
  have hscheme := isScheme_of_parse hparsed
  rw [Uri.scheme_of_target hscheme (by simp) htarget hread] at hweb
  have hvisible := Uri.visible_of_ofText hscheme (by simp) htarget
  -- So the address is one of the web, and all of it is found in the target but its fragment.
  obtain ⟨a, hwritten⟩ := written_of_parse hparsed hweb
  have hkept := hwritten.kept_appendAll params.pairs
  rw [hlocated a hwritten.authority, List.cons_append, List.cons_append] at htarget
  obtain rfl := Uri.target_of_ofText hscheme hwritten.unmarked_front hwritten.slash_mem_front hkept
    htarget
  unfold Url.ofText at hread
  rw [String.toList_ofList] at hread hvisible
  obtain ⟨host, hhost, hsent⟩ := hwritten.eq_of_parse hkept hvisible hread
  exact ⟨a, host, hwritten.authority, hhost, hsent⟩

/-- The query of the address of a call is that of the request. -/
theorem Asks.query_eq {base path token : String} {params : ListParams} {s : Sent}
    (h : Asks base path token params s) (hweb : kindOf s.url.scheme = .web) :
    ∃ parsed, Url.parse (Endpoint.trimBase base ++ path.toList) = .ok parsed ∧
      s.url.query = some (Form.appendAll (parsed.query.getD []) params.pairs) := by
  obtain ⟨url, hurl, _, _, -, -, hsent⟩ := h.goesTo hweb
  obtain ⟨parsed, hparsed, rfl⟩ := Endpoint.url_eq_ok_iff.mp hurl
  refine ⟨parsed, hparsed, ?_⟩
  rw [hsent]
  rfl

theorem Asks.says_params {base path token : String} {params : ListParams} {s : Sent}
    (h : Asks base path token params s) (hweb : kindOf s.url.scheme = .web) :
    Says base path params s := by
  obtain ⟨parsed, hparsed, hquery⟩ := h.query_eq hweb
  refine ⟨parsed, _, hparsed, hquery, ?_⟩
  rw [Form.decodePairs_appendAll, ListParams.pairs, List.map_append]
  cases params.search <;> rfl

section

variable {α : Type} (decode : Json.Bytes → Except Json.Refusal α) (net : Network)
  (base path token : String) (params : ListParams)

theorem asks_of_list {s : Sent} {rest : List Sent}
    (hsent : (list decode net base path token params).sent = s :: rest) :
    Asks base path token params s ∧ kindOf s.url.scheme = .web ∧ s.Chain rest := by
  rcases calls_list decode net base path token params with
    hnothing | ⟨first, others, heq, hasks, hchain⟩
  · rw [hnothing] at hsent
    contradiction
  · obtain ⟨rfl, rfl⟩ := List.cons.inj (hsent.symm.trans heq)
    refine ⟨hasks, ?_, hchain⟩
    apply kind_of_mem_list decode net base path token params
    rw [heq]
    exact List.mem_cons_self

theorem saysFirst_list :
    SaysFirst base path params (list decode net base path token params).sent := by
  intro s rest hsent
  obtain ⟨hasks, hweb, hchain⟩ := asks_of_list decode net base path token params hsent
  exact ⟨hasks.says_params hweb, hchain⟩

/-- The first request of a call goes to the address of the list. -/
theorem goesTo_of_list {s : Sent} {rest : List Sent}
    (hsent : (list decode net base path token params).sent = s :: rest) :
    ∃ url, Endpoint.url base path params = .ok url ∧ GoesTo url s := by
  obtain ⟨hasks, hweb, -⟩ := asks_of_list decode net base path token params hsent
  exact hasks.goesTo hweb

end

end Client

end Roster
