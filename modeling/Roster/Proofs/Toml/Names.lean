import Mathlib.Data.List.Nodup
import Roster.Toml.Document
/-!
# No name comes twice

The table that is read from a document has no name twice, so what is found under a name is all that
is given for it. A dotted key or a heading with several parts changes what stands under its first
part, or adds that at the end. A heading of one part takes the table that was only implied out of
the document before it is put back with its entries, and all else is added only if it is new.
-/

namespace Roster.Toml

/-- The names of entries, in order. -/
def names (entries : Entries) : List String := entries.map (·.1.name)

/-- No two entries have one name. -/
def Distinct (entries : Entries) : Prop := (names entries).Nodup

theorem names_cons (e : Key × Value) (rest : Entries) :
    names (e :: rest) = e.1.name :: names rest := rfl

theorem names_append (entries more : Entries) :
    names (entries ++ more) = names entries ++ names more := List.map_append

theorem get?_eq_none_iff {entries : Entries} {name : String} :
    entries.get? name = none ↔ name ∉ names entries := by
  induction entries with
  | nil => simp [Entries.get?, names]
  | cons e rest ih =>
      obtain ⟨key, v⟩ := e
      rw [names] at ih ⊢
      by_cases hname : key.name = name
      · simp [Entries.get?, hname]
      · simp [Entries.get?, hname, Ne.symm hname, ih]

theorem nodup_concat {α : Type} {xs : List α} (h : xs.Nodup) {a : α} (ha : a ∉ xs) :
    (xs ++ [a]).Nodup :=
  List.nodup_append.mpr ⟨h, List.nodup_singleton a, fun b hb c hc heq => by
    rw [heq, List.mem_singleton.mp hc] at hb
    exact ha hb⟩

theorem Distinct.append {entries : Entries} (h : Distinct entries) {key : Key}
    (hnew : key.name ∉ names entries) (v : Value) : Distinct (entries ++ [(key, v)]) := by
  rw [Distinct, names_append]
  exact nodup_concat h hnew

/-! ### Changes below the top -/

section

variable {α : Type} {isDotted : Bool} {change : Role → Entries → Option (Entries × α)} {key : Key}
  {path : List Key} {role : Role} {entries after : Entries} {a : α}

theorem names_changeUnder (h : changeUnder isDotted change key entries = some (after, a)) :
    names after =
      if key.name ∈ names entries then names entries else names entries ++ [key.name] := by
  induction entries generalizing after with
  | nil =>
      rw [changeUnder] at h
      simp only [Option.bind_eq_bind, Option.bind_eq_some_iff, Option.some.injEq,
        Prod.mk.injEq] at h
      obtain ⟨_, -, rfl, -⟩ := h
      rfl
  | cons e rest ih =>
      obtain ⟨k, v⟩ := e
      unfold changeUnder at h
      by_cases hname : k.name = key.name
      · rw [if_pos hname] at h
        -- The entry that is found is changed below its key.
        have hsame : ∀ w, names ((k, w) :: rest) = if key.name ∈ names ((k, v) :: rest) then
            names ((k, v) :: rest) else names ((k, v) :: rest) ++ [key.name] := by
          intro w
          simp [names, hname]
        split at h
        · split at h
          · contradiction
          · obtain ⟨_, -, heq⟩ := Option.bind_eq_some_iff.mp h
            obtain ⟨rfl, -⟩ := Prod.mk.inj (Option.some.inj heq)
            exact hsame _
        · split at h
          · obtain ⟨_, -, heq⟩ := Option.bind_eq_some_iff.mp h
            obtain ⟨rfl, -⟩ := Prod.mk.inj (Option.some.inj heq)
            exact hsame _
          · contradiction
        · contradiction
      · rw [if_neg hname] at h
        obtain ⟨⟨others, b⟩, hothers, heq⟩ := Option.bind_eq_some_iff.mp h
        obtain ⟨rfl, rfl⟩ := Prod.mk.inj (Option.some.inj heq)
        rw [names_cons, names_cons, ih hothers]
        simp only [List.mem_cons, Ne.symm hname, false_or]
        split <;> rfl

theorem distinct_changeAt (hd : Distinct entries)
    (h : changeAt isDotted change (key :: path) role entries = some (after, a)) :
    Distinct after := by
  rw [changeAt] at h
  rw [Distinct, names_changeUnder h]
  split
  · exact hd
  · next hnew =>
    exact nodup_concat hd hnew

end

/-- A change at a path of several keys leaves the names apart. -/
theorem distinct_changeAt_dropLast {α : Type} {isDotted : Bool}
    {change : Role → Entries → Option (Entries × α)} {first next : Key} {path : List Key}
    {role : Role} {entries after : Entries} {a : α} (hd : Distinct entries)
    (h : changeAt isDotted change (first :: next :: path).dropLast role entries = some (after, a)) :
    Distinct after := by
  rw [List.dropLast_cons_cons] at h
  exact distinct_changeAt hd h

/-! ### Entries -/

theorem distinct_addEntry {path : List Key} {v : Value} {entries after : Entries}
    (hd : Distinct entries) (h : addEntry path v entries = some after) : Distinct after := by
  obtain ⟨last, hlast, h⟩ := Option.bind_eq_some_iff.mp h
  obtain ⟨⟨found, _⟩, hchange, rfl⟩ := Option.map_eq_some_iff.mp h
  rcases path with _ | ⟨first, _ | ⟨next, path⟩⟩
  · contradiction
  · rw [List.dropLast_singleton, changeAt] at hchange
    split at hchange
    · contradiction
    · next hnew =>
      obtain ⟨rfl, -⟩ := Prod.mk.inj (Option.some.inj hchange)
      exact hd.append (get?_eq_none_iff.mp (by simpa using (not_or.mp hnew).2)) v
  · exact distinct_changeAt_dropLast hd hchange

theorem names_addRepeated {name : String} {t : Value} {entries after : Entries}
    (h : Draft.addRepeated name t entries = some after) : names after = names entries := by
  induction entries generalizing after with
  | nil => contradiction
  | cons e rest ih =>
      obtain ⟨key, v⟩ := e
      unfold Draft.addRepeated at h
      by_cases hname : key.name = name
      · rw [if_pos hname] at h
        split at h
        · rw [← Option.some.inj h]
          rfl
        · contradiction
      · rw [if_neg hname] at h
        obtain ⟨others, hothers, rfl⟩ := Option.map_eq_some_iff.mp h
        rw [names_cons, names_cons, ih hothers]

theorem names_takeImplied {name : String} {entries others inner : Entries}
    (h : Draft.takeImplied name entries = some (others, inner)) :
    names others = (names entries).erase name := by
  induction entries generalizing others with
  | nil =>
      obtain ⟨rfl, -⟩ := Prod.mk.inj (Option.some.inj h)
      rfl
  | cons e rest ih =>
      obtain ⟨key, v⟩ := e
      unfold Draft.takeImplied at h
      by_cases hname : key.name = name
      · rw [if_pos hname] at h
        split at h
        · obtain ⟨rfl, -⟩ := Prod.mk.inj (Option.some.inj h)
          simp [names, hname]
        · contradiction
      · rw [if_neg hname] at h
        obtain ⟨⟨more, found⟩, hmore, heq⟩ := Option.map_eq_some_iff.mp h
        obtain ⟨rfl, rfl⟩ := Prod.mk.inj heq
        rw [names_cons, names_cons, ih hmore, List.erase_cons_tail (by simpa using hname)]

/-! ### Drafts -/

namespace Draft

/-- Before the first heading the entries are those of the document. A heading of one part that does
not repeat finds its name free. -/
structure Sound (d : Draft) : Prop where
  root : Distinct d.root
  entries : d.path = [] → Distinct d.entries
  free : ∀ key, d.path = [key] → d.repeated = false → key.name ∉ names d.root

variable {d d' : Draft} {path : List Key} {span : Span} {v : Value} {entries : Entries}

theorem sound_empty : Sound empty := ⟨List.nodup_nil, fun _ => List.nodup_nil, nofun⟩

/-- Under a heading the entries are not yet those of the document. -/
theorem Sound.heading (hpath : d.path ≠ []) (hroot : Distinct d.root)
    (hfree : ∀ key, d.path = [key] → d.repeated = false → key.name ∉ names d.root) : d.Sound :=
  ⟨hroot, fun hdocument => absurd hdocument hpath, hfree⟩

theorem Sound.close (h : d.Sound) (hclose : d.close = some entries) : Distinct entries := by
  unfold Draft.close at hclose
  rcases hpath : d.path with _ | ⟨first, _ | ⟨next, path⟩⟩
  · rw [hpath] at hclose
    rw [← Option.some.inj hclose]
    exact h.entries hpath
  · rw [hpath] at hclose
    obtain ⟨⟨after, _⟩, hchange, rfl⟩ := Option.map_eq_some_iff.mp hclose
    rw [List.dropLast_singleton, changeAt] at hchange
    cases hrepeated : d.repeated with
    | true =>
        simp only [hrepeated, if_true] at hchange
        obtain ⟨after, hafter, heq⟩ := Option.map_eq_some_iff.mp hchange
        obtain ⟨rfl, -⟩ := Prod.mk.inj heq
        rw [Distinct, names_addRepeated hafter]
        exact h.root
    | false =>
        simp only [hrepeated] at hchange
        obtain ⟨rfl, -⟩ := Prod.mk.inj (Option.some.inj hchange)
        exact h.root.append (h.free first hpath hrepeated) _
  · rw [hpath] at hclose
    split at hclose
    · next hlast => exact absurd hlast (by simp)
    · obtain ⟨⟨after, _⟩, hchange, rfl⟩ := Option.map_eq_some_iff.mp hclose
      exact distinct_changeAt_dropLast h.root hchange

theorem Sound.startTable (h : d.Sound) (hstart : d.startTable path span = some d') : d'.Sound := by
  obtain ⟨root, hclose, hstart⟩ := Option.bind_eq_some_iff.mp hstart
  obtain ⟨key, hkey, hstart⟩ := Option.bind_eq_some_iff.mp hstart
  obtain ⟨⟨others, inner⟩, hchange, heq⟩ := Option.bind_eq_some_iff.mp hstart
  obtain rfl := Option.some.inj heq
  have hroot := h.close hclose
  rcases path with _ | ⟨first, _ | ⟨next, path⟩⟩
  · contradiction
  · obtain rfl := Option.some.inj hkey
    rw [List.dropLast_singleton, changeAt] at hchange
    have hnames := names_takeImplied hchange
    have hothers : Distinct others := by
      rw [Distinct, hnames]
      exact hroot.erase _
    refine .heading (List.cons_ne_nil _ _) hothers ?_
    rintro key hsingle -
    obtain rfl := (List.cons.inj hsingle).1
    rw [hnames]
    exact hroot.not_mem_erase
  · refine .heading (List.cons_ne_nil _ _) (distinct_changeAt_dropLast hroot hchange) ?_
    rintro key hsingle -
    exact absurd (List.cons.inj hsingle).2 (List.cons_ne_nil _ _)

theorem Sound.startRepeated (h : d.Sound) (hstart : d.startRepeated path span = some d') :
    d'.Sound := by
  obtain ⟨root, hclose, hstart⟩ := Option.bind_eq_some_iff.mp hstart
  obtain ⟨key, hkey, hstart⟩ := Option.bind_eq_some_iff.mp hstart
  obtain ⟨⟨after, _⟩, hchange, heq⟩ := Option.bind_eq_some_iff.mp hstart
  obtain rfl := Option.some.inj heq
  have hroot := h.close hclose
  rcases path with _ | ⟨first, _ | ⟨next, path⟩⟩
  · contradiction
  · refine .heading (List.cons_ne_nil _ _) ?_ fun _ _ hnew => Bool.noConfusion hnew
    rw [List.dropLast_singleton, changeAt] at hchange
    split at hchange
    · next hnew =>
      obtain ⟨rfl, -⟩ := Prod.mk.inj (Option.some.inj hchange)
      exact hroot.append (get?_eq_none_iff.mp hnew) _
    · obtain ⟨rfl, -⟩ := Prod.mk.inj (Option.some.inj hchange)
      exact hroot
    · contradiction
  · exact .heading (List.cons_ne_nil _ _) (distinct_changeAt_dropLast hroot hchange)
      fun _ _ hnew => Bool.noConfusion hnew

theorem Sound.add (h : d.Sound) (hadd : d.add path v = some d') : d'.Sound := by
  obtain ⟨entries, hentries, heq⟩ := Option.bind_eq_some_iff.mp hadd
  obtain rfl := Option.some.inj heq
  exact ⟨h.root, fun hpath => distinct_addEntry (h.entries hpath) hentries, h.free⟩

end Draft

/-! ### Documents -/

section

variable {d d' : Draft} {s rest : List Char}

theorem sound_readHeading (h : d.Sound) (hread : readHeading d s = some (d', rest)) : d'.Sound := by
  unfold readHeading at hread
  split at hread
  · simp only [Option.bind_eq_bind, Option.bind_eq_some_iff, Option.some.injEq,
      Prod.mk.injEq] at hread
    obtain ⟨_, -, _, -, _, -, _, hstart, _, -, rfl, -⟩ := hread
    exact h.startRepeated hstart
  · simp only [Option.bind_eq_bind, Option.bind_eq_some_iff, Option.some.injEq,
      Prod.mk.injEq] at hread
    obtain ⟨_, -, _, -, _, hstart, _, -, rfl, -⟩ := hread
    exact h.startTable hstart
  · contradiction

theorem sound_readEntry (h : d.Sound) (hread : readEntry d s = some (d', rest)) : d'.Sound := by
  unfold readEntry at hread
  simp only [Option.bind_eq_bind, Option.bind_eq_some_iff, Option.some.injEq,
    Prod.mk.injEq] at hread
  obtain ⟨_, -, _, -, _, -, _, hadd, _, -, rfl, -⟩ := hread
  exact h.add hadd

theorem sound_readLines {fuel : Nat} (h : d.Sound) (hread : readLines fuel d s = some d') :
    d'.Sound := by
  induction fuel generalizing d s with
  | zero => contradiction
  | succ fuel ih =>
      unfold readLines at hread
      split at hread
      · rwa [← Option.some.inj hread]
      · obtain ⟨_, -, hread⟩ := Option.bind_eq_some_iff.mp hread
        exact ih h hread
      · obtain ⟨⟨next, _⟩, hheading, hread⟩ := Option.bind_eq_some_iff.mp hread
        exact ih (sound_readHeading h hheading) hread
      · split at hread
        · exact ih h hread
        · obtain ⟨⟨next, _⟩, hentry, hread⟩ := Option.bind_eq_some_iff.mp hread
          exact ih (sound_readEntry h hentry) hread

/-- The table that is read from a document has no name twice. -/
theorem distinct_parse {entries : Entries} (h : parse? s = some entries) : Distinct entries := by
  obtain ⟨d, hread, hclose⟩ := Option.bind_eq_some_iff.mp h
  exact (sound_readLines Draft.sound_empty hread).close hclose

end

end Roster.Toml
