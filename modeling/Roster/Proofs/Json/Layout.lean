import Roster.Json.Reader.Value
import Roster.Proofs.Json.Number
/-!
# How a document is laid out

Whatever a container holds, what is written for it is one element after the other, each on a line of
its own, with a comma before each but the first. A reader that passes over blanks meets the first
byte of the element that comes next.
-/

namespace Roster.Json

open Url

/-! ### Documents without doubles -/

mutual

/-- Whether all numbers in a value are integers. -/
def isWhole : Json → Bool
  | null => true
  | bool _ => true
  | number (.int _) => true
  | number (.real _) => false
  | string _ => true
  | array items => itemsWhole items
  | object members => membersWhole members

def itemsWhole : List Json → Bool
  | [] => true
  | v :: rest => isWhole v && itemsWhole rest

def membersWhole : List (String × Json) → Bool
  | [] => true
  | (_, v) :: rest => isWhole v && membersWhole rest

end

theorem itemsWhole_iff {items : List Json} : itemsWhole items ↔ ∀ v ∈ items, isWhole v := by
  induction items with
  | nil => simp [itemsWhole]
  | cons v rest ih => rw [itemsWhole, Bool.and_eq_true, ih, List.forall_mem_cons]

theorem membersWhole_iff {members : List (String × Json)} :
    membersWhole members ↔ ∀ m ∈ members, isWhole m.2 := by
  induction members with
  | nil => simp [membersWhole]
  | cons m rest ih => rw [membersWhole, Bool.and_eq_true, ih, List.forall_mem_cons]

/-! ### Elements and lines -/

/-- An element of a list on its line. -/
def prettyItem (level : Nat) (v : Json) : List Char := newLine level ++ pretty level v

/-- A member of an object on its line. -/
def prettyMember (level : Nat) (m : String × Json) : List Char :=
  newLine level ++ printText m.1 ++ ':' :: ' ' :: pretty level m.2

/-- What comes after the first element of a list. -/
def moreItems (level : Nat) (items : List Json) : List Char :=
  items.flatMap fun v => ',' :: prettyItem level v

/-- What comes after the first member of an object. -/
def moreMembers (level : Nat) (members : List (String × Json)) : List Char :=
  members.flatMap fun m => ',' :: prettyMember level m

theorem moreItems_cons (level : Nat) (v : Json) (items : List Json) :
    moreItems level (v :: items) = ',' :: (prettyItem level v ++ moreItems level items) := rfl

theorem moreMembers_cons (level : Nat) (m : String × Json) (members : List (String × Json)) :
    moreMembers level (m :: members) =
      ',' :: (prettyMember level m ++ moreMembers level members) := rfl

theorem prettyItems_cons (level : Nat) (v : Json) (items : List Json) :
    prettyItems level (v :: items) = prettyItem level v ++ moreItems level items := by
  induction items generalizing v with
  | nil => rw [prettyItems, prettyItem, moreItems, List.flatMap_nil, List.append_nil]
  | cons w rest ih =>
      rw [prettyItems, ih, moreItems_cons]
      rfl

theorem prettyMembers_cons (level : Nat) (m : String × Json) (members : List (String × Json)) :
    prettyMembers level (m :: members) = prettyMember level m ++ moreMembers level members := by
  induction members generalizing m with
  | nil => rw [prettyMembers, prettyMember, moreMembers, List.flatMap_nil, List.append_nil]
  | cons n rest ih =>
      rw [prettyMembers, ih, moreMembers_cons]
      rfl

theorem utf8_moreItems_cons (level : Nat) (v : Json) (items : List Json) (rest : Bytes) :
    utf8 (moreItems level (v :: items)) ++ rest =
      44 :: (utf8 (prettyItem level v) ++ (utf8 (moreItems level items) ++ rest)) := by
  rw [moreItems_cons, utf8_cons, utf8_append, ← List.append_assoc (utf8 _)]
  rfl

theorem utf8_moreMembers_cons (level : Nat) (m : String × Json) (members : List (String × Json))
    (rest : Bytes) :
    utf8 (moreMembers level (m :: members)) ++ rest =
      44 :: (utf8 (prettyMember level m) ++ (utf8 (moreMembers level members) ++ rest)) := by
  rw [moreMembers_cons, utf8_cons, utf8_append, ← List.append_assoc (utf8 _)]
  rfl

theorem utf8_pretty_array (level : Nat) (v : Json) (items : List Json) :
    utf8 (pretty level (.array (v :: items))) =
      91 :: (utf8 (prettyItem (level + 1) v) ++
        (utf8 (moreItems (level + 1) items) ++ (utf8 (newLine level) ++ [93]))) := by
  rw [pretty, prettyItems_cons]
  simp only [List.cons_append, utf8_cons, utf8_append, List.append_assoc]
  rfl

theorem utf8_pretty_object (level : Nat) (m : String × Json) (members : List (String × Json)) :
    utf8 (pretty level (.object (m :: members))) =
      123 :: (utf8 (prettyMember (level + 1) m) ++
        (utf8 (moreMembers (level + 1) members) ++ (utf8 (newLine level) ++ [125]))) := by
  rw [pretty, prettyMembers_cons]
  simp only [List.cons_append, utf8_cons, utf8_append, List.append_assoc]
  rfl

theorem utf8_prettyItem (level : Nat) (v : Json) (rest : Bytes) :
    utf8 (prettyItem level v) ++ rest =
      utf8 (newLine level) ++ (utf8 (pretty level v) ++ rest) := by
  rw [prettyItem, utf8_append, List.append_assoc]

/-- A member is a name in quotes, a colon, a blank and a value. -/
theorem utf8_prettyMember (level : Nat) (m : String × Json) (rest : Bytes) :
    utf8 (prettyMember level m) ++ rest =
      utf8 (newLine level) ++ 34 :: (utf8 (m.1.toList.flatMap escapeChar) ++
        34 :: 58 :: 32 :: (utf8 (pretty level m.2) ++ rest)) := by
  rw [prettyMember]
  simp only [utf8_append, utf8_cons, utf8_printText, List.append_assoc, List.cons_append]
  rfl

/-! ### Blanks -/

theorem skipSpace_of_token {b : UInt8} (hb : isSpace b = false) (text : Bytes) :
    skipSpace (b :: text) = b :: text := by
  rw [skipSpace, List.dropWhile_cons_of_neg (by simp [hb])]

theorem utf8_newLine (level : Nat) :
    utf8 (newLine level) = 10 :: List.replicate (2 * level) 32 := by
  rw [newLine, utf8_of_ascii]
  · rw [List.map_cons, List.map_replicate]
    rfl
  · intro c hc
    rcases List.mem_cons.mp hc with rfl | hc
    · decide
    · rw [List.eq_of_mem_replicate hc]
      decide

theorem skipSpace_newLine (level : Nat) (text : Bytes) :
    skipSpace (utf8 (newLine level) ++ text) = skipSpace text := by
  rw [utf8_newLine, skipSpace, List.dropWhile_append_of_pos]
  · rfl
  · intro b hb
    rcases List.mem_cons.mp hb with rfl | hb
    · rfl
    · rw [List.eq_of_mem_replicate hb]
      rfl

/-! ### First bytes -/

/-- A byte that a value can begin with, as opposed to white space and the end of a list. -/
def StartsValue (b : UInt8) : Prop := isSpace b = false ∧ b ≠ 93

theorem startsValue_of_isDigit {b : UInt8} (hb : isDigit b = true) : StartsValue b := by
  have hne : ∀ c : UInt8, isDigit c = false → b ≠ c := fun c => ne_of_isDigit hb
  refine ⟨?_, hne 93 rfl⟩
  simp [isSpace, hne 32 rfl, hne 10 rfl, hne 9 rfl, hne 13 rfl]

theorem digitBytes_starts (n : Nat) : ∃ b text, digitBytes n = b :: text ∧ isDigit b = true := by
  have hne : digitBytes n ≠ [] := by
    rw [digitBytes, ne_eq, List.map_eq_nil_iff]
    exact Nat.toDigits_ne_nil
  obtain ⟨b, text, hdigits⟩ := List.exists_cons_of_ne_nil hne
  exact ⟨b, text, hdigits, isDigit_of_mem_digitBytes (n := n) (by simp [hdigits])⟩

theorem int_eq_ofNat_or_neg (i : Int) : (∃ n : Nat, i = n) ∨ ∃ n : Nat, 0 < n ∧ i = -n := by
  rcases Int.lt_or_le i 0 with hi | hi
  · exact .inr ⟨i.natAbs, by omega, by omega⟩
  · exact .inl ⟨i.natAbs, by omega⟩

theorem utf8_printNumber_neg {n : Nat} (hn : 0 < n) :
    utf8 (printNumber (.int (-n))) = 45 :: digitBytes n := by
  rw [printNumber_neg hn, utf8_cons, utf8_toDigits]
  rfl

theorem pretty_starts {v : Json} (hv : v.isWhole) (level : Nat) :
    ∃ b text, utf8 (pretty level v) = b :: text ∧ StartsValue b := by
  cases v with
  | null => exact ⟨110, _, rfl, rfl, by decide⟩
  | bool b =>
      cases b with
      | false => exact ⟨102, _, rfl, rfl, by decide⟩
      | true => exact ⟨116, _, rfl, rfl, by decide⟩
  | number n =>
      cases n with
      | real x => contradiction
      | int i =>
          rw [pretty]
          rcases int_eq_ofNat_or_neg i with ⟨n, rfl⟩ | ⟨n, hn, rfl⟩
          · obtain ⟨b, text, hdigits, hb⟩ := digitBytes_starts n
            exact ⟨b, text, by rw [printNumber_ofNat, utf8_toDigits, hdigits],
              startsValue_of_isDigit hb⟩
          · exact ⟨45, _, utf8_printNumber_neg hn, rfl, by decide⟩
  | string s => exact ⟨34, _, by rw [pretty, utf8_printText], rfl, by decide⟩
  | array items =>
      cases items with
      | nil => exact ⟨91, _, rfl, rfl, by decide⟩
      | cons v items => exact ⟨91, _, utf8_pretty_array level v items, rfl, by decide⟩
  | object members =>
      cases members with
      | nil => exact ⟨123, _, rfl, rfl, by decide⟩
      | cons m members => exact ⟨123, _, utf8_pretty_object level m members, rfl, by decide⟩

end Roster.Json
