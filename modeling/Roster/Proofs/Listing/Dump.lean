import Mathlib
import Roster.Fleet.Terminal
import Roster.Proofs.Fleet.Page
import Roster.Proofs.Listing.Course
import Roster.Proofs.Listing.Document
/-!
# Listings shown as JSON

A listing that shows JSON prints the document that it received: whoever reads what was printed comes
to the same document, and a listing that receives it prints it again.
-/

namespace Roster

theorem Response.value_eq_ok_iff {α : Type} {decode : Json.Bytes → Except Json.Refusal α}
    {code : Nat} {body : Json.Bytes} {a : α} :
    value decode code body = .ok a ↔ Http.Status.isSuccess code ∧ decode body = .ok a := by
  unfold value
  split
  · next hsuccess =>
    rw [mapError_eq_ok_iff]
    exact ⟨fun h => ⟨hsuccess, h⟩, And.right⟩
  · next hfailure => exact ⟨nofun, fun h => absurd h.1 hfailure⟩

namespace Listing

open Plan

variable {σ ω σ' ω' : Type}

theorem run_plan_of_json (labels : Labels) {r : Request} (hformat : r.format = .json)
    {h : Handler σ ω} {s s₁ : ω} {page : Page} (hpage : h.instances r.params s = (.ok page, s₁)) :
    (plan labels r).run h s = ⟨Format.json.document page.document, .ok (), s₁⟩ := by
  rw [run_plan_of_document h s labels (by rw [hformat]; decide), hpage, hformat]

/-- **Fidelity of a listing shown as JSON.** When the answer is a response whose body is a page, the
body is a document, and if that holds no doubles, what is printed is read as the same document, and
is printed again by any listing that is answered with it. -/
theorem dump_of_listing (labels : Labels) {r : Request} (hformat : r.format = .json)
    {h : Handler σ ω} {s s₁ : ω} {code : Nat} {body : Json.Bytes} {page : Page}
    (hanswer : h.instances r.params s = (Response.value Page.ofBytes code body, s₁))
    (hpage : Response.value Page.ofBytes code body = .ok page) :
    ∃ v, Json.ofBytes body = .ok v ∧ (v.isWhole →
      let run := (plan labels r).run h s
      run.result = .ok () ∧ Json.ofBytes (printedBytes run.out) = .ok v ∧
        ∀ (labels' : Labels) (r' : Request) (h' : Handler σ' ω') (s' s₁' : ω') (code' : Nat),
          r'.format = .json → Http.Status.isSuccess code' →
          h'.instances r'.params s' =
            (Response.value Page.ofBytes code' (printedBytes run.out), s₁') →
          (plan labels' r').run h' s' = ⟨run.out, .ok (), s₁'⟩) := by
  obtain ⟨-, hbody⟩ := Response.value_eq_ok_iff.mp hpage
  obtain ⟨hread, hitems⟩ := Page.ofBytes_eq_ok_iff.mp hbody
  refine ⟨page.document, hread, fun hwhole => ?_⟩
  rw [hpage] at hanswer
  rw [run_plan_of_json labels hformat hanswer]
  have hback := ofBytes_printedBytes (Json.readable_of_ofBytes hread) hwhole
  refine ⟨rfl, hback, ?_⟩
  intro labels' r' h' s' s₁' code' hformat' hsuccess hanswer'
  have hagain := Response.value_eq_ok_iff.mpr ⟨hsuccess, Page.ofBytes_eq_ok_iff.mpr ⟨hback, hitems⟩⟩
  dsimp only at hanswer'
  rw [hagain] at hanswer'
  exact run_plan_of_json labels' hformat' hanswer'

/-- A page that gives one name twice, with an escape, an absent value and an unknown field. -/
def untidyPage : Json.Bytes :=
  Url.utf8 ("\x7b\"total\":1,\"items\":[\x7b\"id\":\"a\",\"gone\":null\x7d]," ++
    "\"note\":\"\\u00e9\\n\",\"total\":-5\x7d").toList

/-- The document of the page, in which the repeated name has its last value. -/
def untidyDocument : Json :=
  .object [("total", .number (.int (-5))),
    ("items", .array [.object [("id", .string "a"), ("gone", .null)]]), ("note", .string "é\n")]

theorem dump_of_listing_untidyPage :
    let answering (body : Json.Bytes) : Handler Unit Nat :=
      ⟨fun _ n => (Response.value Page.ofBytes 200 body, n + 1), fun _ n => (.ok [], n + 1),
        fun n => (.error (), n + 1)⟩
    let dump (body : Json.Bytes) :=
      (plan (Terminal.labels none) ⟨1, 10, "", .json⟩).run (answering body) 0
    untidyDocument.isWhole ∧ (dump untidyPage).result = .ok () ∧
      Json.ofBytes (printedBytes (dump untidyPage).out) = .ok untidyDocument ∧
      dump (printedBytes (dump untidyPage).out) = dump untidyPage := by
  intro answering dump
  have hpage : Response.value Page.ofBytes 200 untidyPage =
      .ok ⟨untidyDocument, [⟨"a", "", "", "", "", "", none⟩]⟩ := by cbv
  have hread : Json.ofBytes untidyPage = .ok untidyDocument :=
    (Page.ofBytes_eq_ok_iff.mp (Response.value_eq_ok_iff.mp hpage).2).1
  have hwhole : untidyDocument.isWhole := rfl
  have hanswer : (answering untidyPage).instances (Request.params ⟨1, 10, "", .json⟩) 0 =
      (.ok ⟨untidyDocument, [⟨"a", "", "", "", "", "", none⟩]⟩, 1) := by
    change (Response.value Page.ofBytes 200 untidyPage, 1) = _
    rw [hpage]
  obtain ⟨out, hrun⟩ : ∃ out, dump untidyPage = ⟨out, .ok (), 1⟩ :=
    ⟨_, run_plan_of_json (Terminal.labels none) (r := ⟨1, 10, "", .json⟩) rfl hanswer⟩
  obtain ⟨v, hv, hdump⟩ := @dump_of_listing Unit Nat Unit Nat (Terminal.labels none)
    ⟨1, 10, "", .json⟩ rfl (answering untidyPage) 0 1 200 untidyPage _ rfl hpage
  obtain rfl : untidyDocument = v := Except.ok.inj (hread.symm.trans hv)
  obtain ⟨hresult, hback, hagain⟩ := hdump hwhole
  have hsame := hagain (Terminal.labels none) ⟨1, 10, "", .json⟩
    (answering (printedBytes (dump untidyPage).out)) 0 1 200 rfl rfl rfl
  have hout : (dump untidyPage).out = out := congrArg Plan.Run.out hrun
  rw [← hout] at hrun
  exact ⟨hwhole, hresult, hback, hsame.trans hrun.symm⟩

end Listing

end Roster
