import Roster.Listing.Format
import Roster.Proofs.Json.RoundTrip
import Roster.Proofs.Yaml.Place
/-!
# What a document is shown as

A document that is shown is shown as a whole. As JSON it can be read again from what was printed,
and as YAML every value in it has been written out, wherever it stands.
-/

namespace Roster

/-- The bytes of what was printed. -/
def printedBytes (out : String) : Json.Bytes := out.toUTF8.data.toList

theorem printedBytes_document (v : Json) :
    printedBytes (Format.json.document v) = Url.utf8 (v.pretty 0) ++ [10] := by
  have hjoin : v.toLines ++ "\n" = String.ofList (v.pretty 0 ++ ['\n']) := by
    rw [Json.toLines, String.ofList_append]
  rw [printedBytes, Format.document_json, hjoin, Url.toUTF8_ofList, Url.utf8_append]
  rfl

/-- What is shown as JSON is read back, if it is readable and holds no doubles. -/
theorem ofBytes_printedBytes {v : Json} (hv : Json.Readable Json.maxDepth v) (hwhole : v.isWhole) :
    Json.ofBytes (printedBytes (Format.json.document v)) = .ok v := by
  rw [printedBytes_document]
  exact Json.ofBytes_pretty hv hwhole (List.forall_mem_singleton.mpr rfl)

namespace Yaml

/-- A text shows every value of a document, with something in front of it and behind it. -/
def ShowsParts (v : Json) (out : String) : Prop :=
  ∀ (p : Place) (part : Json), v = p.fill part → ∃ front spot level rest,
    out = String.ofList (front ++ block spot level part ++ rest)

theorem showsParts_document (v : Json) : ShowsParts v (document v) := by
  intro p part hv
  obtain ⟨front, spot, level, rest, hfill⟩ := exists_block_fill p .top 0
  refine ⟨front, spot, level, rest, ?_⟩
  rw [hv, document, hfill]

end Yaml

/-- A text is the whole of a document in some format. A table is none. -/
inductive Format.Shows (v : Json) : Format → String → Prop
  | json {out : String} (hlines : out = v.toLines ++ "\n")
      (hback : Json.Readable Json.maxDepth v → v.isWhole →
        Json.ofBytes (printedBytes out) = .ok v) : Shows v .json out
  | yaml {out : String} (hblocks : out = Yaml.document v) (hparts : Yaml.ShowsParts v out) :
      Shows v .yaml out

theorem Format.shows_document {f : Format} (hf : f ≠ .table) (v : Json) :
    f.Shows v (f.document v) := by
  cases f with
  | table => contradiction
  | json => exact .json (document_json v) ofBytes_printedBytes
  | yaml => exact .yaml (document_yaml v) (Yaml.showsParts_document v)

end Roster
