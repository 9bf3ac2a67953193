import Roster.Command.Arguments
import Roster.Proofs.Command.Count
import Roster.Proofs.Text.Split
/-!
# Command lines with one option

A listing with one option, whose value stands behind an equals sign in the same word, comes to what is
usual with that option set. So a value that should be a count decides alone what such a command line
comes to, and it is either taken as it is written or refused.
-/

namespace Roster

/-! ### An option in one word -/

theorem Word.splitValue_append {name : List Char} (hname : '=' ∉ name) (value : List Char) :
    splitValue (name ++ '=' :: value) = (name, some value) := by
  have hkeep := Text.ne_of_notMem hname
  unfold splitValue
  rw [List.takeWhile_append_of_pos hkeep, List.dropWhile_append_of_pos hkeep,
    List.takeWhile_cons_of_neg (by decide), List.dropWhile_cons_of_neg (by decide),
    List.append_nil, List.tail?_cons]

namespace ListOption

/-- An option with its value behind an equals sign. -/
def joined (o : ListOption) (value : String) : String := "--" ++ o.name ++ "=" ++ value

variable (o : ListOption) (value : String)

theorem equals_notMem_name : '=' ∉ o.name.toList := by
  cases o <;> decide

theorem ofName?_name : ofName? o.name.toList = some o := by
  cases o <;> decide

theorem ofText_joined :
    Word.ofText (o.joined value) = .named o.name.toList (some value.toList) := by
  have htext : (o.joined value).toList = '-' :: '-' :: (o.name.toList ++ '=' :: value.toList) := by
    simp [joined]
  unfold Word.ofText
  rw [htext]
  simp only [Word.splitValue_append o.equals_notMem_name]

theorem joined_ne_stop : o.joined value ≠ "--" := by
  have hstop : Word.ofText "--" = .named [] none := by decide
  intro hjoined
  have hword := o.ofText_joined value
  rw [hjoined, hstop] at hword
  exact absurd (Word.named.inj hword).2 nofun

end ListOption

namespace Arguments

theorem parse_joined (o : ListOption) (value : String) :
    parse ["kafka", "list", o.joined value] = default.set o value := by
  have hword : Reading.start.word (o.joined value) = Reading.start.take o value := by
    unfold Reading.word
    rw [o.ofText_joined]
    simp only [o.ofName?_name]
    change Reading.start.take o (String.ofList value.toList) = _
    rw [String.ofList_toList]
  have htake : Reading.start.take o value = (default.set o value).map (⟨·, [o], none⟩) :=
    if_neg List.not_mem_nil
  calc parse ["kafka", "list", o.joined value]
    _ = Reading.start.words [o.joined value] := rfl
    _ = Reading.start.take o value >>= (·.words []) := by
      rw [Reading.words, if_neg (o.joined_ne_stop value), hword]
    _ = default.set o value := by
      rw [htake]
      cases default.set o value <;> rfl

/-! ### Values that should be counts -/

section

variable {o : ListOption} {value : String}

theorem count_eq_ok_iff {c : Count} :
    count o value = .ok c ↔ Count.Writes value.toList c.val := by
  rw [count, mapError_eq_ok_iff, Count.parse_eq_ok_iff]

theorem count_eq_error_iff {e : UsageError} :
    count o value = .error e ↔
      ∃ reason, e = .notACount o value reason ∧ Count.Refuses value.toList reason := by
  rw [count, mapError_eq_error_iff]
  constructor
  · rintro ⟨reason, hparse, rfl⟩
    exact ⟨reason, rfl, Count.parse_eq_error_iff.mp hparse⟩
  · rintro ⟨reason, rfl, hrefuses⟩
    exact ⟨reason, Count.parse_eq_error_iff.mpr hrefuses, rfl⟩

end

/-- What comes of a value that should be a count. It is accepted exactly if it writes a number in range.
That number is then taken as it is, and nothing else changes. All other values are errors of that option,
each for the reason for which the text is no count. -/
structure Judged (o : ListOption) (put : Count → Arguments) (value : String)
    (outcome : Except UsageError Arguments) : Prop where
  accepted_iff : (∃ a, outcome = .ok a) ↔
    ∃ n : Int, Count.Writes value.toList n ∧ 1 ≤ n ∧ n ≤ 4294967295
  taken : ∀ n : Int, Count.Writes value.toList n → 1 ≤ n → n ≤ 4294967295 →
    ∃ c : Count, c.val = n ∧ outcome = .ok (put c)
  refused_iff : ∀ e, outcome = .error e ↔
    ∃ reason, e = .notACount o value reason ∧ Count.Refuses value.toList reason

theorem judged_count (o : ListOption) (put : Count → Arguments) (value : String) :
    Judged o put value ((count o value).map put) := by
  have htaken : ∀ n : Int, Count.Writes value.toList n → 1 ≤ n → n ≤ 4294967295 →
      ∃ c : Count, c.val = n ∧ (count o value).map put = .ok (put c) := by
    intro n hwrites hlow hhigh
    obtain ⟨c, rfl⟩ := Count.exists_val_eq_iff.mpr ⟨hlow, hhigh⟩
    exact ⟨c, rfl, map_eq_ok_iff.mpr ⟨c, count_eq_ok_iff.mpr hwrites, rfl⟩⟩
  refine ⟨⟨?_, ?_⟩, htaken, ?_⟩
  · rintro ⟨a, ha⟩
    obtain ⟨c, hcount, -⟩ := map_eq_ok_iff.mp ha
    exact ⟨c.val, count_eq_ok_iff.mp hcount, Count.exists_val_eq_iff.mp ⟨c, rfl⟩⟩
  · rintro ⟨n, hwrites, hlow, hhigh⟩
    obtain ⟨c, -, htake⟩ := htaken n hwrites hlow hhigh
    exact ⟨put c, htake⟩
  · intro e
    rw [map_eq_error_iff, count_eq_error_iff]

/-- **Counts on the command line.** A page or a limit is accepted exactly if its value writes a number
from 1 to 4294967295 in decimal, with any number of zeros in front and with or without a sign, and it is
then that number. Every other value is an error of the option, so none is cut off or replaced by what is
usual. -/
theorem outcome_of_count (value : String) :
    Judged .page (fun n => { default with page := n }) value
        (parse ["kafka", "list", "--page=" ++ value]) ∧
      Judged .limit (fun n => { default with limit := n }) value
        (parse ["kafka", "list", "--limit=" ++ value]) := by
  have hpage : "--page=" ++ value = ListOption.page.joined value := rfl
  have hlimit : "--limit=" ++ value = ListOption.limit.joined value := rfl
  rw [hpage, hlimit, parse_joined, parse_joined]
  exact ⟨judged_count .page _ value, judged_count .limit _ value⟩

example : parse ["kafka", "list", "--page=+007"] =
    .ok { default with page := ⟨7, by decide, by decide⟩ } := by decide

example : parse ["kafka", "list", "--limit=4294967296"] =
    .error (.notACount .limit "4294967296" (.outside 4294967296)) := by decide

end Arguments

end Roster
