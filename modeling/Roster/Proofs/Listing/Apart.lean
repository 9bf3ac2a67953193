import Roster.Proofs.Listing.Course
import Roster.Proofs.Listing.Document
/-!
# Listings shown as YAML

A listing that shows YAML prints the document that it received, and whoever reads what was printed
does not take a text for anything else. What is printed for a string is not what would be printed in
its place for null, a boolean or an integer of 64 bits, nor for another string on one line.
-/

namespace Roster

namespace Format

open Yaml

/-- A value is shown in one piece, with the same around it whatever it is. -/
theorem exists_document_fill (p : Place) : ∃ front spot level rest, ∀ v,
    Format.yaml.document (p.fill v) = String.ofList (front ++ block spot level v ++ rest) := by
  obtain ⟨front, spot, level, rest, hfill⟩ := exists_block_fill p .top 0
  refine ⟨front, spot, level, rest, fun v => ?_⟩
  rw [document_yaml, Yaml.document, hfill]

end Format

namespace Listing

open Plan Yaml

theorem run_plan_of_yaml {σ ω : Type} (labels : Labels) {r : Request} (hformat : r.format = .yaml)
    {h : Handler σ ω} {s s₁ : ω} {page : Page} (hpage : h.instances r.params s = (.ok page, s₁)) :
    (plan labels r).run h s = ⟨Format.yaml.document page.document, .ok (), s₁⟩ := by
  rw [run_plan_of_document h s labels (by rw [hformat]; decide), hpage, hformat]

/-- **A dump keeps texts apart.** A listing that shows YAML prints the document of its page. In what
is printed a value stands in one piece, and the rest does not depend on it. What is printed for a
string is never what is printed in the same place for null, a boolean or an integer of 64 bits, and
different strings on one line are printed differently. So are the documents in which they stand, at
whatever depth. -/
theorem texts_kept_apart :
    (∀ (σ ω : Type) (labels : Labels) (r : Request) (h : Handler σ ω) (s s₁ : ω) (page : Page),
      r.format = .yaml → h.instances r.params s = (.ok page, s₁) →
      (plan labels r).run h s = ⟨Format.yaml.document page.document, .ok (), s₁⟩) ∧
    (∀ p : Place, ∃ front spot level rest, ∀ v,
      Format.yaml.document (p.fill v) = String.ofList (front ++ block spot level v ++ rest)) ∧
    (∀ (s : String) (v : Json), Bare v →
      (∀ spot level, block spot level (.string s) ≠ block spot level v) ∧
      ∀ p : Place,
        Format.yaml.document (p.fill (.string s)) ≠ Format.yaml.document (p.fill v)) ∧
    ∀ s : String, Unbroken s.toList →
      (∀ spot level, block spot level (.string s) =
        spot.gap ++ (scalar (level + 2) s.toList ++ ['\n'])) ∧
      ∀ t : String, Unbroken t.toList → s ≠ t →
        (∀ level, scalar level s.toList ≠ scalar level t.toList) ∧
        ∀ p : Place,
          Format.yaml.document (p.fill (.string s)) ≠ Format.yaml.document (p.fill (.string t)) := by
  refine ⟨?_, Format.exists_document_fill, ?_, ?_⟩
  · intro σ ω labels r h s s₁ page hformat hpage
    exact run_plan_of_yaml labels hformat hpage
  · intro s v hv
    have hapart := block_string_ne_of_bare s hv
    refine ⟨hapart, fun p => ?_⟩
    rw [Format.document_yaml, Format.document_yaml]
    exact document_fill_ne hapart p
  · intro s hs
    refine ⟨block_string_of_unbroken hs, fun t ht hne => ⟨scalar_ne hs ht hne, fun p => ?_⟩⟩
    rw [Format.document_yaml, Format.document_yaml]
    exact document_fill_ne (block_string_ne hs ht hne) p

example : Format.yaml.document (.object [("id", .string "123"), ("size", .number (.int 123))]) =
    "id: '123'\nsize: 123\n" := by decide +kernel

end Listing

end Roster
