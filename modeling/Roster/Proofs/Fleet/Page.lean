import Roster.Fleet.Page
import Roster.Proofs.Json.Readable
/-!
# Pages and their documents

A page is a document that the reader accepts, kept as it is, whose instances can be told.
-/

namespace Roster.Page

open Json

theorem document_of_ofJson {v : Json} {page : Page} (h : ofJson v = .ok page) :
    page.document = v := by
  obtain ⟨fields, -, heq⟩ := bind_eq_ok_iff.mp h
  rw [← Except.ok.inj heq]

/-- A text is a page when it is a document and the document is a page. -/
theorem ofBytes_eq_ok_iff {text : Bytes} {page : Page} :
    ofBytes text = .ok page ↔
      Json.ofBytes text = .ok page.document ∧ ofJson page.document = .ok page := by
  unfold ofBytes
  constructor
  · intro h
    obtain ⟨⟨v, rest⟩, hread, hpage⟩ := bind_eq_ok_iff.mp h
    obtain ⟨found, hfound, hrest⟩ := bind_eq_ok_iff.mp hpage
    obtain ⟨_, hend, heq⟩ := bind_eq_ok_iff.mp hrest
    obtain rfl := Except.ok.inj heq
    rw [mapError_eq_ok_iff] at hread hfound hend
    obtain rfl := document_of_ofJson hfound
    exact ⟨Json.ofBytes_eq_ok_iff.mpr ⟨rest, hread, hend⟩, hfound⟩
  · rintro ⟨hvalue, hfound⟩
    obtain ⟨rest, hread, hend⟩ := Json.ofBytes_eq_ok_iff.mp hvalue
    refine bind_eq_ok_iff.mpr ⟨(page.document, rest), mapError_eq_ok_iff.mpr hread, ?_⟩
    refine bind_eq_ok_iff.mpr ⟨page, mapError_eq_ok_iff.mpr hfound, ?_⟩
    exact bind_eq_ok_iff.mpr ⟨(), mapError_eq_ok_iff.mpr hend, rfl⟩

end Roster.Page
