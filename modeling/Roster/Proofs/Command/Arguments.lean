import Roster.Command.Arguments
import Roster.Proofs.Command.Count
/-!
# What the words of a command line say

Words that are accepted name the command and then options, each with its value in the same word or in
the next one. No option is named twice, and what is asked for is what the options say in their order,
with what is usual for those that are not named.
-/

namespace Roster.Arguments

/-! ### Words -/

/-- A word names an option, and may give a value for it. -/
def Names (word : String) (o : ListOption) (value : Option (List Char)) : Prop :=
  (∃ name, Word.ofText word = .named name value ∧ ListOption.ofName? name = some o) ∨
    ∃ letter rest, Word.ofText word = .lettered letter rest ∧
      ListOption.ofLetter? letter = some o ∧ Word.attached? rest = value

/-- What some words say of the options. A lone `--` may come last. -/
inductive Says : List String → List (ListOption × String) → Prop
  | nothing : Says [] []
  | stop : Says ["--"] []
  | joined {word : String} {o : ListOption} {value : List Char} {words : List String}
      {said : List (ListOption × String)} (hword : Names word o (some value))
      (hrest : Says words said) : Says (word :: words) ((o, String.ofList value) :: said)
  | apart {word next : String} {o : ListOption} {text : List Char} {words : List String}
      {said : List (ListOption × String)} (hword : Names word o none)
      (hnext : Word.ofText next = .plain text) (hrest : Says words said) :
      Says (word :: next :: words) ((o, next) :: said)

theorem Names.unique {word : String} {o other : ListOption} {value value' : Option (List Char)}
    (h : Names word o value) (h' : Names word other value') : o = other ∧ value = value' := by
  rcases h with ⟨name, hword, hname⟩ | ⟨letter, rest, hword, hletter, hrest⟩
  · rcases h' with ⟨name', hword', hname'⟩ | ⟨letter', rest', hword', -, -⟩
    · obtain ⟨rfl, rfl⟩ := Word.named.inj (hword.symm.trans hword')
      exact ⟨Option.some.inj (hname.symm.trans hname'), rfl⟩
    · rw [hword] at hword'
      contradiction
  · rcases h' with ⟨name', hword', -⟩ | ⟨letter', rest', hword', hletter', hrest'⟩
    · rw [hword] at hword'
      contradiction
    · obtain ⟨rfl, rfl⟩ := Word.lettered.inj (hword.symm.trans hword')
      exact ⟨Option.some.inj (hletter.symm.trans hletter'), hrest.symm.trans hrest'⟩

theorem not_names_stop {o : ListOption} {value : Option (List Char)} : ¬Names "--" o value := by
  have hstop : Word.ofText "--" = .named [] none := by decide
  have hnone : ListOption.ofName? [] = none := by decide
  rintro (⟨name, hword, hname⟩ | ⟨letter, rest, hword, -⟩)
  · obtain ⟨rfl, -⟩ := Word.named.inj (hstop.symm.trans hword)
    rw [hnone] at hname
    contradiction
  · rw [hstop] at hword
    contradiction

/-- Words can be taken in one way only. -/
theorem Says.unique {words : List String} {said other : List (ListOption × String)}
    (h : Says words said) (h' : Says words other) : said = other := by
  induction h generalizing other with
  | nothing =>
      cases h'
      rfl
  | stop =>
      cases h' with
      | stop => rfl
      | joined hword _ => exact absurd hword not_names_stop
  | joined hword _ ih =>
      cases h' with
      | stop => exact absurd hword not_names_stop
      | joined hword' hrest' =>
          obtain ⟨rfl, hvalue⟩ := hword.unique hword'
          rw [Option.some.inj hvalue, ih hrest']
      | apart hword' _ _ => exact absurd (hword.unique hword').2 nofun
  | apart hword _ _ ih =>
      cases h' with
      | joined hword' _ => exact absurd (hword.unique hword').2 nofun
      | apart hword' _ hrest' =>
          obtain ⟨rfl, -⟩ := hword.unique hword'
          rw [ih hrest']

/-- What some words say when an option before them may be waiting for its value. -/
def SaysAfter :
    Option (ListOption × Option String) → List String → List (ListOption × String) → Prop
  | none, words, said => Says words said
  | some (o, some value), words, said => ∃ more, said = (o, value) :: more ∧ Says words more
  | some (o, none), words, said => ∃ next text rest more, words = next :: rest ∧
      Word.ofText next = .plain text ∧ said = (o, next) :: more ∧ Says rest more

/-! ### Reading -/

/-- Takes options in their order. -/
def setAll (a : Arguments) (said : List (ListOption × String)) : Except UsageError Arguments :=
  said.foldlM (fun a p => a.set p.1 p.2) a

namespace Reading

/-- What is read in the end is what was said: no option twice, and each taken into account. -/
structure Reads (r : Reading) (said : List (ListOption × String)) (a : Arguments) : Prop where
  once : (said.map Prod.fst).Nodup
  fresh : ∀ o ∈ said.map Prod.fst, o ∉ r.given
  set : r.arguments.setAll said = .ok a

theorem take_eq_ok {r t : Reading} {o : ListOption} {value : String} (h : r.take o value = .ok t) :
    o ∉ r.given ∧ r.arguments.set o value = .ok t.arguments ∧ t.given = r.given ++ [o] ∧
      t.pending = none := by
  unfold take at h
  split at h
  · contradiction
  · next hfresh =>
    obtain ⟨a, ha, rfl⟩ := map_eq_ok_iff.mp h
    exact ⟨hfresh, ha, rfl, rfl⟩

theorem Reads.of_take {r t : Reading} {o : ListOption} {value : String}
    (h : r.take o value = .ok t) {said : List (ListOption × String)} {a : Arguments}
    (hreads : t.Reads said a) : r.Reads ((o, value) :: said) a := by
  obtain ⟨hfresh, hset, hgiven, -⟩ := take_eq_ok h
  have hmore : ∀ p ∈ said.map Prod.fst, p ∉ r.given ∧ p ≠ o := by
    intro p hp
    have hnew := hreads.fresh p hp
    rw [hgiven, List.mem_append, List.mem_singleton, not_or] at hnew
    exact hnew
  refine ⟨?_, ?_, ?_⟩
  · exact List.nodup_cons.mpr ⟨fun hmem => (hmore o hmem).2 rfl, hreads.once⟩
  · exact List.forall_mem_cons.mpr ⟨hfresh, fun p hp => (hmore p hp).1⟩
  · unfold setAll
    rw [List.foldlM_cons]
    exact bind_eq_ok_iff.mpr ⟨_, hset, hreads.set⟩

/-- Settling takes a complete option into account, and there is none that waits for its value. -/
theorem settle_eq_ok {r t : Reading} (h : r.settle = .ok t) :
    t.pending = none ∧ (r.pending = none ∧ t = r ∨
      ∃ o value, r.pending = some (o, some value) ∧ r.take o value = .ok t) := by
  unfold settle at h
  split at h
  · next hpending =>
    obtain rfl := Except.ok.inj h
    exact ⟨hpending, .inl ⟨hpending, rfl⟩⟩
  · contradiction
  · next o value hpending => exact ⟨(take_eq_ok h).2.2.2, .inr ⟨o, value, hpending, h⟩⟩

theorem says_of_settle {r t : Reading} (h : r.settle = .ok t) {words : List String}
    {said : List (ListOption × String)} {a : Arguments} (hsaid : Says words said)
    (hreads : t.Reads said a) : ∃ more, SaysAfter r.pending words more ∧ r.Reads more a := by
  obtain ⟨-, ⟨hpending, rfl⟩ | ⟨o, value, hpending, htake⟩⟩ := settle_eq_ok h
  · exact ⟨said, by rw [hpending]; exact hsaid, hreads⟩
  · exact ⟨_, by rw [hpending]; exact ⟨said, rfl, hsaid⟩, hreads.of_take htake⟩

theorem says_of_option {r t : Reading} {text : String} {o : ListOption}
    {value : Option (List Char)} (hnames : Names text o value) (h : r.option o value = .ok t)
    {words : List String} {said : List (ListOption × String)} {a : Arguments}
    (hsaid : SaysAfter t.pending words said) (hreads : t.Reads said a) :
    ∃ more, SaysAfter r.pending (text :: words) more ∧ r.Reads more a := by
  obtain ⟨s, hsettle, h⟩ := bind_eq_ok_iff.mp h
  cases value with
  | some value =>
      have htaken := (take_eq_ok h).2.2.2
      rw [htaken] at hsaid
      exact says_of_settle hsettle (.joined hnames hsaid) (hreads.of_take h)
  | none =>
      -- The option is pending now, so its value is what the words behind it begin with.
      obtain rfl := Except.ok.inj h
      obtain ⟨next, plain, rest, more, rfl, hplain, rfl, hsaid⟩ := hsaid
      exact says_of_settle hsettle (.apart hnames hplain hsaid)
        ⟨hreads.once, hreads.fresh, hreads.set⟩

theorem says_of_plain {r t : Reading} {text : String} {plain : List Char}
    (hplain : Word.ofText text = .plain plain) (h : r.plain text = .ok t) {words : List String}
    {said : List (ListOption × String)} {a : Arguments} (hsaid : SaysAfter t.pending words said)
    (hreads : t.Reads said a) : SaysAfter r.pending (text :: words) said ∧ r.Reads said a := by
  unfold Reading.plain at h
  split at h
  · next o hpending =>
    obtain rfl := Except.ok.inj h
    obtain ⟨more, rfl, hsaid⟩ := hsaid
    rw [hpending]
    exact ⟨⟨text, plain, words, more, rfl, hplain, rfl, hsaid⟩,
      hreads.once, hreads.fresh, hreads.set⟩
  · contradiction

theorem says_of_word {r t : Reading} {text : String} (h : r.word text = .ok t)
    {words : List String} {said : List (ListOption × String)} {a : Arguments}
    (hsaid : SaysAfter t.pending words said) (hreads : t.Reads said a) :
    ∃ more, SaysAfter r.pending (text :: words) more ∧ r.Reads more a := by
  unfold Reading.word at h
  split at h
  · next name value hword =>
    split at h
    · next o hname => exact says_of_option (.inl ⟨name, hword, hname⟩) h hsaid hreads
    · contradiction
  · next letter rest hword =>
    split at h
    · next o hletter =>
      exact says_of_option (.inr ⟨letter, rest, hword, hletter, rfl⟩) h hsaid hreads
    · contradiction
  · next hword => exact ⟨said, says_of_plain hword h hsaid hreads⟩

theorem exists_says_of_words {words : List String} {r : Reading} {a : Arguments}
    (h : r.words words = .ok a) : ∃ said, SaysAfter r.pending words said ∧ r.Reads said a := by
  induction words generalizing r with
  | nil =>
      obtain ⟨t, ht, rfl⟩ := map_eq_ok_iff.mp h
      exact says_of_settle ht .nothing ⟨List.nodup_nil, nofun, rfl⟩
  | cons text rest ih =>
      unfold Reading.words at h
      split at h
      · next hstop =>
        subst hstop
        split at h
        · obtain ⟨t, ht, rfl⟩ := map_eq_ok_iff.mp h
          exact says_of_settle ht .stop ⟨List.nodup_nil, nofun, rfl⟩
        · contradiction
      · obtain ⟨t, hword, h⟩ := bind_eq_ok_iff.mp h
        obtain ⟨said, hsaid, hreads⟩ := ih h
        exact says_of_word hword hsaid hreads

end Reading

/-! ### Command lines -/

/-- A command line names the listing and says this of its options, of each at most once. -/
def Given (words : List String) (said : List (ListOption × String)) : Prop :=
  (said.map Prod.fst).Nodup ∧ ∃ options, Says options said ∧
    (words = "kafka" :: "list" :: options ∨ words = "kafka" :: "ls" :: options)

theorem Given.unique {words : List String} {said other : List (ListOption × String)}
    (h : Given words said) (h' : Given words other) : said = other := by
  obtain ⟨-, options, hsaid, hwords⟩ := h
  obtain ⟨-, options', hsaid', hwords'⟩ := h'
  have htail : ∀ {rest}, words = "kafka" :: "list" :: rest ∨ words = "kafka" :: "ls" :: rest →
      words.drop 2 = rest := by
    rintro rest (rfl | rfl) <;> rfl
  obtain rfl : options = options' := (htail hwords).symm.trans (htail hwords')
  exact hsaid.unique hsaid'

theorem Command.sub?_eq_some {c below : Command} {name : String} (h : c.sub? name = some below) :
    c = .fleet ∧ name = "kafka" ∧ below = .kafka ∨
      c = .kafka ∧ (name = "list" ∨ name = "ls") ∧ below = .list := by
  unfold Command.sub? at h
  split at h
  · exact .inl ⟨rfl, rfl, (Option.some.inj h).symm⟩
  · exact .inr ⟨rfl, .inl rfl, (Option.some.inj h).symm⟩
  · exact .inr ⟨rfl, .inr rfl, (Option.some.inj h).symm⟩
  · contradiction

/-- A command with others below it reads on at the one that is named. -/
theorem parseBelow_eq_ok {c : Command} (hc : c ≠ .list) {words : List String} {a : Arguments}
    (h : parseBelow c words = .ok a) :
    ∃ name rest below, words = name :: rest ∧ c.sub? name = some below ∧
      parseBelow below rest = .ok a := by
  unfold parseBelow at h
  split at h
  · contradiction
  · contradiction
  · next name rest _ =>
    split at h
    · next below hbelow => exact ⟨name, rest, below, rfl, hbelow, h⟩
    · contradiction

theorem exists_given_of_parse {words : List String} {a : Arguments} (h : parse words = .ok a) :
    ∃ said, Given words said ∧ default.setAll said = .ok a := by
  obtain ⟨kafka, behind, group, rfl, hgroup, h⟩ := parseBelow_eq_ok (by decide) h
  obtain ⟨-, rfl, rfl⟩ | ⟨hfleet, -⟩ := Command.sub?_eq_some hgroup
  · obtain ⟨name, options, below, rfl, hbelow, h⟩ := parseBelow_eq_ok (by decide) h
    obtain ⟨hkafka, -⟩ | ⟨-, hname, rfl⟩ := Command.sub?_eq_some hbelow
    · contradiction
    · unfold parseBelow at h
      obtain ⟨said, hsaid, hreads⟩ := Reading.exists_says_of_words h
      refine ⟨said, ⟨hreads.once, options, hsaid, ?_⟩, hreads.set⟩
      exact hname.imp (fun h => by rw [h]) (fun h => by rw [h])
  · contradiction

/-! ### What the options come to -/

/-- What taking an option changes. -/
inductive Sets (a : Arguments) (value : String) : ListOption → Arguments → Prop
  | output (f : Format) : Sets a value .output { a with format := f }
  | page {n : Count} (h : Count.parse value = .ok n) : Sets a value .page { a with page := n }
  | limit {n : Count} (h : Count.parse value = .ok n) : Sets a value .limit { a with limit := n }
  | search : Sets a value .search { a with search := some value }
  | clusterApiUrl : Sets a value .clusterApiUrl { a with clusterApiUrl := some value }
  | accessToken : Sets a value .accessToken { a with accessToken := some value }

theorem sets_of_set {a b : Arguments} {o : ListOption} {value : String}
    (h : a.set o value = .ok b) : Sets a value o b := by
  cases o with
  | output =>
      obtain ⟨f, -, rfl⟩ := map_eq_ok_iff.mp h
      exact .output f
  | page =>
      obtain ⟨n, hn, rfl⟩ := map_eq_ok_iff.mp h
      exact .page (mapError_eq_ok_iff.mp hn)
  | limit =>
      obtain ⟨n, hn, rfl⟩ := map_eq_ok_iff.mp h
      exact .limit (mapError_eq_ok_iff.mp hn)
  | search => exact Except.ok.inj h ▸ .search
  | clusterApiUrl => exact Except.ok.inj h ▸ .clusterApiUrl
  | accessToken => exact Except.ok.inj h ▸ .accessToken

section Field

variable {β : Type} {f : Arguments → β} {o : ListOption} {P : String → β → Prop}
  {said : List (ListOption × String)} {a b : Arguments}

/-- A field that no option touches but one is kept when that one is not named. -/
theorem field_of_not_said (hkeep : ∀ {a b : Arguments} {p : ListOption} {value : String}, p ≠ o →
      Sets a value p b → f b = f a) (hsaid : o ∉ said.map Prod.fst) (h : a.setAll said = .ok b) :
    f b = f a := by
  induction said generalizing a with
  | nil => rw [← Except.ok.inj h]
  | cons p rest ih =>
      rw [List.map_cons, List.mem_cons, not_or] at hsaid
      unfold setAll at h
      rw [List.foldlM_cons] at h
      obtain ⟨c, hset, hrest⟩ := bind_eq_ok_iff.mp h
      rw [ih hsaid.2 hrest, hkeep (Ne.symm hsaid.1) (sets_of_set hset)]

/-- A field that one option alone touches is what that option says, or as it was before. -/
theorem field_of_setAll (hset : ∀ {a b : Arguments} {value : String}, Sets a value o b →
      P value (f b))
    (hkeep : ∀ {a b : Arguments} {p : ListOption} {value : String}, p ≠ o →
      Sets a value p b → f b = f a) (honce : (said.map Prod.fst).Nodup)
    (h : a.setAll said = .ok b) :
    match said.lookup o with
    | some value => P value (f b)
    | none => f b = f a := by
  induction said generalizing a with
  | nil => exact field_of_not_said hkeep List.not_mem_nil h
  | cons p rest ih =>
      obtain ⟨p, value⟩ := p
      obtain ⟨hfresh, honce⟩ := List.nodup_cons.mp honce
      unfold setAll at h
      rw [List.foldlM_cons] at h
      obtain ⟨c, htake, hrest⟩ := bind_eq_ok_iff.mp h
      by_cases hp : o = p
      · subst hp
        rw [List.lookup_cons_self, field_of_not_said hkeep hfresh hrest]
        exact hset (sets_of_set htake)
      · rw [List.lookup_cons, beq_eq_false_iff_ne.mpr hp]
        have hsame := hkeep (Ne.symm hp) (sets_of_set htake)
        rw [← hsame]
        exact ih honce hrest

end Field

/-- What is said of a count, or what is usual if nothing is. -/
def Counts (said : List (ListOption × String)) (o : ListOption) (usual n : Nat) : Prop :=
  match said.lookup o with
  | some value => Count.Writes value.toList n
  | none => n = usual

section

variable {said : List (ListOption × String)} {a : Arguments}

theorem page_of_setAll (honce : (said.map Prod.fst).Nodup) (h : default.setAll said = .ok a) :
    Counts said .page 1 a.page.val :=
  field_of_setAll (f := fun a => a.page.val) (P := fun value n => Count.Writes value.toList n)
    (fun hsets => by cases hsets with | page hn => exact Count.parse_eq_ok_iff.mp hn)
    (fun hne hsets => by cases hsets with | page => exact absurd rfl hne | _ => rfl) honce h

theorem limit_of_setAll (honce : (said.map Prod.fst).Nodup) (h : default.setAll said = .ok a) :
    Counts said .limit 10 a.limit.val :=
  field_of_setAll (f := fun a => a.limit.val) (P := fun value n => Count.Writes value.toList n)
    (fun hsets => by cases hsets with | limit hn => exact Count.parse_eq_ok_iff.mp hn)
    (fun hne hsets => by cases hsets with | limit => exact absurd rfl hne | _ => rfl) honce h

theorem search_of_setAll (honce : (said.map Prod.fst).Nodup) (h : default.setAll said = .ok a) :
    a.search = said.lookup .search := by
  have hfield := field_of_setAll (f := search) (o := .search)
    (P := fun value term => term = some value)
    (fun hsets => by cases hsets with | search => rfl)
    (fun hne hsets => by cases hsets with | search => exact absurd rfl hne | _ => rfl) honce h
  revert hfield
  cases said.lookup .search with
  | none => exact id
  | some value => exact id

end

end Roster.Arguments
