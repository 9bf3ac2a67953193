import Roster.Proofs.Json.Layout
import Roster.Proofs.Json.Readable
/-!
# Documents that were written are read back

A readable value without doubles is read back from its text, whatever the level it was written at
and whatever follows that does not go on with a number. Every element is read back in its turn, and
what is read behind it is a comma or a new line.
-/

namespace Roster.Json

open Url

variable {fuel depth level : Nat} {rest : Bytes}

/-! ### Single values -/

theorem readWord_append (word : List Char) (rest : Bytes) :
    readWord word (word.map byte ++ rest) = .ok rest := by
  induction word with
  | nil => rfl
  | cons c word ih =>
      rw [List.map_cons, List.cons_append, readWord, if_pos rfl]
      exact ih

theorem readValueUpTo_null : readValueUpTo (fuel + 1) depth (utf8 (pretty level .null) ++ rest) =
    .ok (.null, rest) := by
  unfold readValueUpTo
  change (readWord "ull".toList ("ull".toList.map byte ++ rest) >>= _) = _
  rw [readWord_append]
  rfl

theorem readValueUpTo_bool (b : Bool) :
    readValueUpTo (fuel + 1) depth (utf8 (pretty level (.bool b)) ++ rest) =
      .ok (.bool b, rest) := by
  unfold readValueUpTo
  cases b with
  | false =>
      change (readWord "alse".toList ("alse".toList.map byte ++ rest) >>= _) = _
      rw [readWord_append]
      rfl
  | true =>
      change (readWord "rue".toList ("rue".toList.map byte ++ rest) >>= _) = _
      rw [readWord_append]
      rfl

theorem readValueUpTo_int {i : Int} (hi : IsWord i) (hrest : EndsNumber rest) :
    readValueUpTo (fuel + 1) depth (utf8 (pretty level (.number (.int i))) ++ rest) =
      .ok (.number (.int i), rest) := by
  obtain ⟨hlow, hhigh⟩ := hi
  rw [pretty]
  rcases int_eq_ofNat_or_neg i with ⟨n, rfl⟩ | ⟨n, hn, rfl⟩
  · have hread := readNumber_digitBytes true (n := n) (by omega) hrest
    obtain ⟨b, text, hdigits, hb⟩ := digitBytes_starts n
    have hne : ∀ c : UInt8, isDigit c = false → b ≠ c := fun c => ne_of_isDigit hb
    rw [printNumber_ofNat, utf8_toDigits]
    rw [hdigits, List.cons_append] at hread ⊢
    unfold readValueUpTo
    rw [skipSpace_of_token (startsValue_of_isDigit hb).1]
    dsimp only
    rw [if_neg (hne 110 rfl), if_neg (hne 116 rfl), if_neg (hne 102 rfl), if_neg (hne 45 rfl),
      if_pos hb, hread]
    rfl
  · have hread := readNumber_digitBytes false (n := n) (by unfold maxWord; omega) hrest
    rw [utf8_printNumber_neg hn, List.cons_append]
    unfold readValueUpTo
    change Except.bind (readNumber false (digitBytes n ++ rest)) _ = _
    rw [hread, wholeNumber, if_neg (by decide), if_pos (by omega)]
    rfl

theorem readValueUpTo_string (s : String) :
    readValueUpTo (fuel + 1) depth (utf8 (pretty level (.string s)) ++ rest) =
      .ok (.string s, rest) := by
  have hread := readText_escaped s rest
  rw [pretty, utf8_printText, List.cons_append, List.append_assoc]
  unfold readValueUpTo
  change (readText (_ ++ 34 :: rest) >>= _) = _
  rw [hread]
  rfl

/-! ### Lists -/

/-- A value is read back from its text at any level, up to what follows, when no number goes on
there and the calls suffice for both. -/
def ReadsBack (depth : Nat) (v : Json) : Prop :=
  ∀ ⦃level fuel : Nat⦄ ⦃rest : Bytes⦄, EndsNumber rest →
    2 * (utf8 (pretty level v) ++ rest).length + 2 ≤ fuel →
    readValueUpTo fuel depth (utf8 (pretty level v) ++ rest) = .ok (v, rest)

theorem endsNumber_newLine (level : Nat) (rest : Bytes) :
    EndsNumber (utf8 (newLine level) ++ rest) := by
  rw [utf8_newLine]
  exact ⟨rfl, by decide, by decide, by decide⟩

theorem endsNumber_moreItems (items : List Json) (outer : Nat) (rest : Bytes) :
    EndsNumber (utf8 (moreItems level items) ++ (utf8 (newLine outer) ++ rest)) := by
  cases items with
  | nil => exact endsNumber_newLine outer rest
  | cons v items => exact ⟨rfl, by decide, by decide, by decide⟩

theorem readItems_end {first : Bool} {text : Bytes} (hnext : nextElement first text = .ok none) :
    readItems (fuel + 1) depth first text = .ok ([], skipSpace text) := by
  rw [readItems, hnext]
  rfl

theorem readItems_next {first : Bool} {text next between : Bytes} {v : Json} {vs : List Json}
    (hnext : nextElement first text = .ok (some next))
    (hv : readValueUpTo fuel depth next = .ok (v, between))
    (hvs : readItems fuel depth false between = .ok (vs, rest)) :
    readItems (fuel + 1) depth first text = .ok (v :: vs, rest) := by
  rw [readItems, hnext]
  change Except.bind (readValueUpTo fuel depth next) _ = _
  rw [hv]
  change Except.bind (readItems fuel depth false between) _ = _
  rw [hvs]
  rfl

theorem nextElement_first {v : Json} (hv : v.isWhole) (level : Nat) (rest : Bytes) :
    nextElement true (utf8 (prettyItem level v) ++ rest) =
      .ok (some (utf8 (pretty level v) ++ rest)) := by
  obtain ⟨b, text, hstart, hspace, hend⟩ := pretty_starts hv level
  rw [utf8_prettyItem, nextElement, skipSpace_newLine, hstart, List.cons_append,
    skipSpace_of_token hspace]
  dsimp only
  rw [if_neg hend, if_pos rfl]

theorem nextElement_more {v : Json} (hv : v.isWhole) (level : Nat) (rest : Bytes) :
    nextElement false (44 :: (utf8 (prettyItem level v) ++ rest)) =
      .ok (some (utf8 (pretty level v) ++ rest)) := by
  obtain ⟨b, text, hstart, hspace, hend⟩ := pretty_starts hv level
  rw [nextElement, skipSpace_of_token rfl]
  dsimp only
  rw [if_neg (by decide), if_neg (by decide), if_pos rfl, utf8_prettyItem, skipSpace_newLine,
    hstart, List.cons_append, skipSpace_of_token hspace]
  dsimp only
  rw [if_neg hend]

theorem nextElement_end (level : Nat) (rest : Bytes) :
    nextElement false (utf8 (newLine level) ++ 93 :: rest) = .ok none := by
  rw [nextElement, skipSpace_newLine, skipSpace_of_token rfl]
  rfl

theorem readItems_moreItems {items : List Json} (hwhole : ∀ v ∈ items, v.isWhole)
    (hitems : ∀ v ∈ items, ReadsBack depth v) (outer : Nat)
    (hfuel : 2 * (utf8 (moreItems level items) ++ (utf8 (newLine outer) ++ 93 :: rest)).length + 3
      ≤ fuel) :
    readItems fuel depth false
        (utf8 (moreItems level items) ++ (utf8 (newLine outer) ++ 93 :: rest)) =
      .ok (items, 93 :: rest) := by
  obtain ⟨fuel, rfl⟩ : ∃ n, fuel = n + 1 := ⟨fuel - 1, by omega⟩
  induction items generalizing fuel with
  | nil =>
      refine (readItems_end (nextElement_end outer rest)).trans ?_
      rw [skipSpace_newLine, skipSpace_of_token rfl]
  | cons v items ih =>
      obtain ⟨hv, hrestWhole⟩ := List.forall_mem_cons.mp hwhole
      obtain ⟨hread, hrest⟩ := List.forall_mem_cons.mp hitems
      rw [utf8_moreItems_cons] at hfuel ⊢
      -- The comma and the new line pay for the two calls, so what is left still suffices.
      have hlength := congrArg List.length (utf8_prettyItem level v
        (utf8 (moreItems level items) ++ (utf8 (newLine outer) ++ 93 :: rest)))
      simp only [List.length_cons, List.length_append] at hfuel hlength
      refine readItems_next (nextElement_more hv level _)
        (hread (endsNumber_moreItems items outer _) ?_) ?_
      · simp only [List.length_append, List.length_cons]
        omega
      · obtain ⟨fuel, rfl⟩ : ∃ n, fuel = n + 1 := ⟨fuel - 1, by omega⟩
        refine ih hrestWhole hrest fuel ?_
        simp only [List.length_append, List.length_cons]
        omega

theorem readValueUpTo_array (hdepth : 0 < depth) {text : Bytes} {items : List Json}
    (hitems : readItems fuel depth true text = .ok (items, 93 :: rest)) :
    readValueUpTo (fuel + 1) (depth + 1) (91 :: text) = .ok (.array items, rest) := by
  unfold readValueUpTo
  change (if depth + 1 ≤ 1 then _ else Except.bind (readItems fuel depth true text) _) = _
  rw [if_neg (by omega), hitems]
  rfl

theorem readsBack_array (hdepth : 0 < depth) {items : List Json} (hwhole : ∀ v ∈ items, v.isWhole)
    (hitems : ∀ v ∈ items, ReadsBack depth v) : ReadsBack (depth + 1) (.array items) := by
  intro level fuel rest _ hfuel
  obtain ⟨fuel, rfl⟩ : ∃ n, fuel = n + 2 := ⟨fuel - 2, by omega⟩
  cases items with
  | nil => exact readValueUpTo_array hdepth (readItems_end rfl)
  | cons v items =>
      obtain ⟨hv, hrestWhole⟩ := List.forall_mem_cons.mp hwhole
      obtain ⟨hread, hrest⟩ := List.forall_mem_cons.mp hitems
      have htext : utf8 (pretty level (.array (v :: items))) ++ rest =
          91 :: (utf8 (prettyItem (level + 1) v) ++ (utf8 (moreItems (level + 1) items) ++
            (utf8 (newLine level) ++ 93 :: rest))) := by
        rw [utf8_pretty_array]
        simp only [List.cons_append, List.append_assoc, List.nil_append]
      have hlength := congrArg List.length (utf8_prettyItem (level + 1) v [])
      rw [htext] at hfuel ⊢
      simp only [List.length_cons, List.length_append, utf8_newLine] at hfuel hlength
      refine readValueUpTo_array hdepth (readItems_next (nextElement_first hv (level + 1) _)
        (hread (endsNumber_moreItems items level _) ?_)
        (readItems_moreItems hrestWhole hrest level ?_))
      · simp only [List.length_append, List.length_cons, utf8_newLine]
        omega
      · simp only [List.length_append, List.length_cons, utf8_newLine]
        omega

/-! ### Objects -/

theorem put_of_notMem {name : String} {members : List (String × Json)}
    (h : name ∉ members.map Prod.fst) (value : Json) :
    put name value members = members ++ [(name, value)] := by
  induction members with
  | nil => rfl
  | cons m rest ih =>
      obtain ⟨hne, hrest⟩ := not_or.mp (mt List.mem_cons.mpr h)
      rw [put, if_neg (Ne.symm hne), ih hrest, List.cons_append]

theorem endsNumber_moreMembers (members : List (String × Json)) (outer : Nat) (rest : Bytes) :
    EndsNumber (utf8 (moreMembers level members) ++ (utf8 (newLine outer) ++ rest)) := by
  cases members with
  | nil => exact endsNumber_newLine outer rest
  | cons v items => exact ⟨rfl, by decide, by decide, by decide⟩

theorem readMembers_end {first : Bool} {before : List (String × Json)} {text : Bytes}
    (hnext : nextName first text = .ok none) :
    readMembers (fuel + 1) depth first before text = .ok (before, skipSpace text) := by
  rw [readMembers, hnext]
  rfl

theorem readMembers_next {first : Bool} {before after : List (String × Json)} {name : String}
    {v : Json} {text next colon value between : Bytes}
    (hnext : nextName first text = .ok (some next)) (hname : readText next = .ok (name, colon))
    (hcolon : pastColon colon = .ok value)
    (hv : readValueUpTo fuel depth value = .ok (v, between))
    (hmembers : readMembers fuel depth false (put name v before) between = .ok (after, rest)) :
    readMembers (fuel + 1) depth first before text = .ok (after, rest) := by
  rw [readMembers, hnext]
  change Except.bind (readText next) _ = _
  rw [hname]
  change Except.bind (pastColon colon) _ = _
  rw [hcolon]
  change Except.bind (readValueUpTo fuel depth value) _ = _
  rw [hv]
  exact hmembers

theorem readValueUpTo_blank (text : Bytes) :
    readValueUpTo (fuel + 1) depth (32 :: text) = readValueUpTo (fuel + 1) depth text := by
  unfold readValueUpTo
  rfl

/-- A member in front of a text, past its opening quote, is read and joins those read before. -/
theorem readMembers_member {first : Bool} {before after : List (String × Json)}
    {m : String × Json} {text between : Bytes} (hm : ReadsBack depth m.2)
    (hnew : m.1 ∉ before.map Prod.fst) (hbetween : EndsNumber between)
    (hnext : nextName first text = .ok (some (utf8 (m.1.toList.flatMap escapeChar) ++
      34 :: 58 :: 32 :: (utf8 (pretty level m.2) ++ between))))
    (hfuel : 2 * (utf8 (pretty level m.2) ++ between).length + 2 ≤ fuel)
    (hmembers : readMembers fuel depth false (before ++ [m]) between = .ok (after, rest)) :
    readMembers (fuel + 1) depth first before text = .ok (after, rest) := by
  obtain ⟨fuel, rfl⟩ : ∃ n, fuel = n + 1 := ⟨fuel - 1, by omega⟩
  have hvalue := (readValueUpTo_blank _).trans (hm hbetween hfuel)
  refine readMembers_next hnext (readText_escaped m.1 _) rfl hvalue ?_
  rw [put_of_notMem hnew]
  exact hmembers

theorem nextName_first (level : Nat) (m : String × Json) (rest : Bytes) :
    nextName true (utf8 (prettyMember level m) ++ rest) =
      .ok (some (utf8 (m.1.toList.flatMap escapeChar) ++
        34 :: 58 :: 32 :: (utf8 (pretty level m.2) ++ rest))) := by
  rw [utf8_prettyMember, nextName, skipSpace_newLine, skipSpace_of_token rfl]
  rfl

theorem nextName_more (level : Nat) (m : String × Json) (rest : Bytes) :
    nextName false (44 :: (utf8 (prettyMember level m) ++ rest)) =
      .ok (some (utf8 (m.1.toList.flatMap escapeChar) ++
        34 :: 58 :: 32 :: (utf8 (pretty level m.2) ++ rest))) := by
  rw [utf8_prettyMember, nextName, skipSpace_of_token rfl]
  dsimp only
  rw [if_neg (by decide), if_neg (by decide), if_pos rfl, skipSpace_newLine, skipSpace_of_token rfl]
  rfl

theorem nextName_end (level : Nat) (rest : Bytes) :
    nextName false (utf8 (newLine level) ++ 125 :: rest) = .ok none := by
  rw [nextName, skipSpace_newLine, skipSpace_of_token rfl]
  rfl

theorem readMembers_moreMembers {before members : List (String × Json)}
    (hnames : ((before ++ members).map Prod.fst).Nodup)
    (hmembers : ∀ m ∈ members, ReadsBack depth m.2) (outer : Nat)
    (hfuel : 2 * (utf8 (moreMembers level members) ++
      (utf8 (newLine outer) ++ 125 :: rest)).length + 3 ≤ fuel) :
    readMembers fuel depth false before
        (utf8 (moreMembers level members) ++ (utf8 (newLine outer) ++ 125 :: rest)) =
      .ok (before ++ members, 125 :: rest) := by
  obtain ⟨fuel, rfl⟩ : ∃ n, fuel = n + 1 := ⟨fuel - 1, by omega⟩
  induction members generalizing fuel before with
  | nil =>
      refine (readMembers_end (nextName_end outer rest)).trans ?_
      rw [skipSpace_newLine, skipSpace_of_token rfl, List.append_nil]
  | cons m members ih =>
      obtain ⟨hm, hrest⟩ := List.forall_mem_cons.mp hmembers
      have hnew : m.1 ∉ before.map Prod.fst := by
        rw [List.map_append, List.map_cons] at hnames
        exact fun hmem => (List.nodup_append.mp hnames).2.2 _ hmem _ List.mem_cons_self rfl
      have happend := List.append_cons before m members
      rw [happend] at hnames ⊢
      rw [utf8_moreMembers_cons] at hfuel ⊢
      have hlength := congrArg List.length (utf8_prettyMember level m [])
      simp only [List.length_cons, List.length_append] at hfuel hlength
      obtain ⟨fuel, rfl⟩ : ∃ n, fuel = n + 1 := ⟨fuel - 1, by omega⟩
      refine readMembers_member hm hnew (endsNumber_moreMembers members outer _)
        (nextName_more level m _) ?_ (ih hnames hrest fuel ?_)
      · simp only [List.length_append, List.length_cons]
        omega
      · simp only [List.length_append, List.length_cons]
        omega

theorem readValueUpTo_object (hdepth : 0 < depth) {text : Bytes} {members : List (String × Json)}
    (hmembers : readMembers fuel depth true [] text = .ok (members, 125 :: rest)) :
    readValueUpTo (fuel + 1) (depth + 1) (123 :: text) = .ok (.object members, rest) := by
  unfold readValueUpTo
  change (if depth + 1 ≤ 1 then _ else Except.bind (readMembers fuel depth true [] text) _) = _
  rw [if_neg (by omega), hmembers]
  rfl

theorem readsBack_object (hdepth : 0 < depth) {members : List (String × Json)}
    (hnames : (members.map Prod.fst).Nodup) (hmembers : ∀ m ∈ members, ReadsBack depth m.2) :
    ReadsBack (depth + 1) (.object members) := by
  intro level fuel rest _ hfuel
  obtain ⟨fuel, rfl⟩ : ∃ n, fuel = n + 2 := ⟨fuel - 2, by omega⟩
  cases members with
  | nil => exact readValueUpTo_object hdepth (readMembers_end rfl)
  | cons m members =>
      obtain ⟨hm, hrest⟩ := List.forall_mem_cons.mp hmembers
      have htext : utf8 (pretty level (.object (m :: members))) ++ rest =
          123 :: (utf8 (prettyMember (level + 1) m) ++ (utf8 (moreMembers (level + 1) members) ++
            (utf8 (newLine level) ++ 125 :: rest))) := by
        rw [utf8_pretty_object]
        simp only [List.cons_append, List.append_assoc, List.nil_append]
      have hlength := congrArg List.length (utf8_prettyMember (level + 1) m [])
      rw [htext] at hfuel ⊢
      simp only [List.length_cons, List.length_append] at hfuel hlength
      refine readValueUpTo_object hdepth (readMembers_member hm List.not_mem_nil
        (endsNumber_moreMembers members level _) (nextName_first (level + 1) m _) ?_
        (readMembers_moreMembers hnames hrest level ?_))
      · simp only [List.length_append, List.length_cons]
        omega
      · simp only [List.length_append, List.length_cons]
        omega

/-! ### Documents -/

/-- A value that is read back with a single call needs no calls to spare. -/
theorem readsBack_of_succ {v : Json}
    (h : ∀ {level fuel : Nat} {rest : Bytes}, EndsNumber rest →
      readValueUpTo (fuel + 1) depth (utf8 (pretty level v) ++ rest) = .ok (v, rest)) :
    ReadsBack depth v := by
  intro level fuel rest hrest hfuel
  obtain ⟨fuel, rfl⟩ : ∃ n, fuel = n + 1 := ⟨fuel - 1, by omega⟩
  exact h hrest

/-- **Round trip of values.** A readable value without doubles is read back from its text. -/
theorem readsBack {v : Json} (hv : Readable depth v) (hwhole : v.isWhole) : ReadsBack depth v := by
  induction hv with
  | null => exact readsBack_of_succ fun _ => readValueUpTo_null
  | bool b => exact readsBack_of_succ fun _ => readValueUpTo_bool b
  | int hword => exact readsBack_of_succ fun hrest => readValueUpTo_int hword hrest
  | real x => contradiction
  | string s => exact readsBack_of_succ fun _ => readValueUpTo_string s
  | array hdepth _ ih =>
      rw [isWhole, itemsWhole_iff] at hwhole
      exact readsBack_array hdepth hwhole fun v hv => ih v hv (hwhole v hv)
  | object hdepth hnames _ ih =>
      rw [isWhole, membersWhole_iff] at hwhole
      exact readsBack_object hdepth hnames fun m hm => ih m hm (hwhole m hm)

theorem endsNumber_of_isSpace {space : Bytes} (hspace : ∀ b ∈ space, isSpace b = true) :
    EndsNumber space := by
  cases space with
  | nil => trivial
  | cons b rest =>
      have hb : ((b = 32 ∨ b = 10) ∨ b = 9) ∨ b = 13 := by
        simpa [isSpace] using hspace b List.mem_cons_self
      rcases hb with ((rfl | rfl) | rfl) | rfl <;> exact ⟨rfl, by decide, by decide, by decide⟩

theorem endDocument_of_isSpace {space : Bytes} (hspace : ∀ b ∈ space, isSpace b = true) :
    endDocument space = .ok () := by
  have hskip : skipSpace space = [] := by
    have hdrop : (space ++ []).dropWhile isSpace = [] := List.dropWhile_append_of_pos hspace
    rwa [List.append_nil] at hdrop
  rw [endDocument, hskip]

/-- **Round trip of documents.** A readable document without doubles is read back from the text that
is written for it, with or without blanks behind. -/
theorem ofBytes_pretty {v : Json} (hv : Readable maxDepth v) (hwhole : v.isWhole) {space : Bytes}
    (hspace : ∀ b ∈ space, isSpace b = true) : ofBytes (utf8 (pretty 0 v) ++ space) = .ok v := by
  have hback := readsBack hv hwhole
  have hvalue : readValue maxDepth (utf8 (pretty 0 v) ++ space) = .ok (v, space) :=
    hback (endsNumber_of_isSpace hspace) (Nat.le_refl _)
  exact ofBytes_eq_ok_iff.mpr ⟨space, hvalue, endDocument_of_isSpace hspace⟩

end Roster.Json
