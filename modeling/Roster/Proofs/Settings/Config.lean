import Roster.Settings.Config
import Roster.Proofs.Outcome
import Roster.Proofs.Text.Utf8
import Roster.Proofs.Toml.Names
/-!
# What a settings file gives

The settings that are read from a table are spelt out by the entries that it has, so neither their
order nor entries with other names have a part in them. From this follows what comes of a path
whatever stands there: a file that is there is never taken for a missing one.
-/

namespace Roster

open Toml

namespace Toml.Value

def IsText (v : Value) (s : String) : Prop := ∃ span, v = .string span s

def IsCount (v : Value) (n : Nat) : Prop := ∃ span, v = .integer span n

variable {v : Value}

theorem text_eq_ok_iff {s : String} : v.text = .ok s ↔ v.IsText s := by
  constructor
  · intro h
    cases v with
    | string span t => exact ⟨span, congrArg _ (Except.ok.inj h)⟩
    | _ => contradiction
  · rintro ⟨span, rfl⟩
    rfl

theorem count_eq_ok_iff {n : Nat} : v.count = .ok n ↔ v.IsCount n := by
  constructor
  · intro h
    cases v with
    | integer span i =>
        rw [count] at h
        split at h
        · next hi => exact ⟨span, by rw [← Except.ok.inj h, Int.toNat_of_nonneg hi]⟩
        · contradiction
    | _ => contradiction
  · rintro ⟨span, rfl⟩
    rw [count, if_pos (by omega), Int.toNat_natCast]

end Toml.Value

namespace Config

/-- The value under a name is read as `a`, or nothing has the name and `a` is what holds then. -/
inductive Given {α : Type} (entries : Entries) (name : String) (read : Value → α → Prop)
    (absent : α) : α → Prop where
  | present {key : Key} {v : Value} {a : α} (hmem : (key, v) ∈ entries) (hname : key.name = name)
      (hread : read v a) : Given entries name read absent a
  | absent (h : name ∉ names entries) : Given entries name read absent absent

/-- Something has the name, and its value cannot be read. -/
def Misfit {α : Type} (entries : Entries) (name : String) (read : Value → α → Prop) : Prop :=
  ∃ key v, (key, v) ∈ entries ∧ key.name = name ∧ ∀ a, ¬read v a

/-- A text that need not be there. -/
def IsSomeText (v : Value) (s? : Option String) : Prop := ∃ s, v.IsText s ∧ some s = s?

/-- The settings `c` are those of the entries, and those of `start` where there is no entry. -/
@[mk_iff]
structure Gives (start : Config) (entries : Entries) (c : Config) : Prop where
  apiUrl : Given entries "api_url" Value.IsText start.apiUrl c.apiUrl
  clusterApiUrl :
    Given entries "cluster_mgmt_api_url" IsSomeText start.clusterApiUrl c.clusterApiUrl
  token : Given entries "access_token" IsSomeText start.token c.token
  timeoutSeconds :
    Given entries "request_timeout_secs" Value.IsCount start.timeoutSeconds c.timeoutSeconds

/-! ### One field -/

namespace Given

variable {α : Type} {entries : Entries} {name : String} {read : Value → α → Prop} {old a : α}
  {key : Key} {v : Value}

theorem of_not_mem (h : name ∉ names entries) : Given entries name read old a ↔ old = a := by
  constructor
  · rintro (⟨hmem, hname, -⟩ | -)
    · exact absurd (List.mem_map.mpr ⟨_, hmem, hname⟩) h
    · rfl
  · rintro rfl
    exact .absent h

theorem singleton_iff : Given [(key, v)] name read old a ↔
    if key.name = name then read v a else old = a := by
  split
  · next hname =>
    constructor
    · rintro (⟨hmem, -, hread⟩ | h)
      · rwa [← (Prod.mk.inj (List.mem_singleton.mp hmem)).2]
      · exact absurd (List.mem_singleton.mpr hname.symm) h
    · exact .present List.mem_cons_self hname
  · next hname => exact of_not_mem fun h => hname (List.mem_singleton.mp h).symm

/-- The first of several entries with different names settles a field before the others. -/
theorem cons_iff (h : key.name ∉ names entries) : Given ((key, v) :: entries) name read old a ↔
    ∃ b, Given [(key, v)] name read old b ∧ Given entries name read b a := by
  by_cases hname : key.name = name
  · have hrest : ∀ b, Given entries name read b a ↔ b = a := fun b => of_not_mem (hname ▸ h)
    simp only [hrest, exists_eq_right, singleton_iff, if_pos hname]
    constructor
    · rintro (⟨hmem, hkey, hread⟩ | habsent)
      · rcases List.mem_cons.mp hmem with heq | hmem
        · rwa [← (Prod.mk.inj heq).2]
        · exact absurd (List.mem_map.mpr ⟨_, hmem, hkey.trans hname.symm⟩) h
      · exact absurd (List.mem_cons.mpr (.inl hname.symm)) habsent
    · exact .present List.mem_cons_self hname
  · simp only [singleton_iff, if_neg hname, exists_eq_left']
    constructor
    · rintro (⟨hmem, hkey, hread⟩ | habsent)
      · rcases List.mem_cons.mp hmem with heq | hmem
        · exact absurd ((Prod.mk.inj heq).1 ▸ hkey) hname
        · exact .present hmem hkey hread
      · exact .absent fun hmem => habsent (List.mem_cons_of_mem _ hmem)
    · rintro (⟨hmem, hkey, hread⟩ | habsent)
      · exact .present (List.mem_cons_of_mem _ hmem) hkey hread
      · exact .absent (List.not_mem_cons_of_ne_of_not_mem (Ne.symm hname) habsent)

theorem exists_iff (hd : Distinct entries) (old : α) :
    (∃ a, Given entries name read old a) ↔ ¬Misfit entries name read := by
  constructor
  · rintro ⟨a, ⟨hmem, hname, hread⟩ | habsent⟩ ⟨key, v, hmem', hname', hkind⟩
    · have heq := List.inj_on_of_nodup_map hd hmem hmem' (hname.trans hname'.symm)
      rw [(Prod.mk.inj heq).2] at hread
      exact hkind a hread
    · exact habsent (List.mem_map.mpr ⟨_, hmem', hname'⟩)
  · intro hfits
    by_cases hname : name ∈ names entries
    · obtain ⟨⟨key, v⟩, hmem, hkey⟩ := List.mem_map.mp hname
      obtain ⟨a, hread⟩ : ∃ a, read v a := by_contra fun hkind =>
        hfits ⟨key, v, hmem, hkey, not_exists.mp hkind⟩
      exact ⟨a, .present hmem hkey hread⟩
    · exact ⟨old, .absent hname⟩

end Given

/-! ### All fields -/

variable {start c : Config} {entries : Entries} {key : Key} {v : Value}

/-- An entry settles the field that it names, and no other. -/
theorem set_eq_ok_iff : start.set key v = .ok c ↔ Gives start [(key, v)] c := by
  rw [set, atKey, mapError_eq_ok_iff, gives_iff]
  obtain ⟨api, cluster, token, timeout⟩ := c
  obtain ⟨api', cluster', token', timeout'⟩ := start
  simp only [Given.singleton_iff]
  by_cases hapi : key.name = "api_url"
  · simp [hapi, map_eq_ok_iff, Value.text_eq_ok_iff]
  rw [if_neg hapi, if_neg hapi]
  by_cases hcluster : key.name = "cluster_mgmt_api_url"
  · simp only [hcluster, map_eq_ok_iff, Value.text_eq_ok_iff, IsSomeText, mk.injEq, if_true]
    grind
  rw [if_neg hcluster, if_neg hcluster]
  by_cases htoken : key.name = "access_token"
  · simp only [htoken, map_eq_ok_iff, Value.text_eq_ok_iff, IsSomeText, mk.injEq, if_true]
    grind
  rw [if_neg htoken, if_neg htoken]
  by_cases htimeout : key.name = "request_timeout_secs"
  · simp only [htimeout, map_eq_ok_iff, Value.count_eq_ok_iff, mk.injEq, if_true]
    grind
  · simp [htimeout]

theorem gives_cons_iff (h : key.name ∉ names entries) : Gives start ((key, v) :: entries) c ↔
    ∃ next, Gives start [(key, v)] next ∧ Gives next entries c := by
  constructor
  · rintro ⟨hapi, hcluster, htoken, htimeout⟩
    obtain ⟨api, hapi, hapi'⟩ := (Given.cons_iff h).mp hapi
    obtain ⟨cluster, hcluster, hcluster'⟩ := (Given.cons_iff h).mp hcluster
    obtain ⟨token, htoken, htoken'⟩ := (Given.cons_iff h).mp htoken
    obtain ⟨timeout, htimeout, htimeout'⟩ := (Given.cons_iff h).mp htimeout
    exact ⟨⟨api, cluster, token, timeout⟩, ⟨hapi, hcluster, htoken, htimeout⟩,
      ⟨hapi', hcluster', htoken', htimeout'⟩⟩
  · rintro ⟨next, hfirst, hrest⟩
    exact ⟨(Given.cons_iff h).mpr ⟨_, hfirst.apiUrl, hrest.apiUrl⟩,
      (Given.cons_iff h).mpr ⟨_, hfirst.clusterApiUrl, hrest.clusterApiUrl⟩,
      (Given.cons_iff h).mpr ⟨_, hfirst.token, hrest.token⟩,
      (Given.cons_iff h).mpr ⟨_, hfirst.timeoutSeconds, hrest.timeoutSeconds⟩⟩

theorem foldlM_set_eq_ok_iff (h : Distinct entries) :
    entries.foldlM (fun c entry => c.set entry.1 entry.2) start = .ok c ↔
      Gives start entries c := by
  induction entries generalizing start with
  | nil =>
      have hempty : ∀ name, name ∉ names [] := fun _ => List.not_mem_nil
      rw [gives_iff, Given.of_not_mem (hempty _), Given.of_not_mem (hempty _),
        Given.of_not_mem (hempty _), Given.of_not_mem (hempty _)]
      cases start
      cases c
      simp [pure, Except.pure]
  | cons e rest ih =>
      obtain ⟨key, v⟩ := e
      obtain ⟨hnew, hrest⟩ := List.nodup_cons.mp h
      rw [List.foldlM_cons, bind_eq_ok_iff, gives_cons_iff hnew]
      simp only [set_eq_ok_iff, ih hrest]

theorem ofEntries_eq_ok_iff (h : Distinct entries) :
    ofEntries entries = .ok c ↔ Gives default entries c := foldlM_set_eq_ok_iff h

/-- A setting is there and is of the wrong kind. -/
def Misfits (entries : Entries) : Prop :=
  Misfit entries "api_url" Value.IsText ∨ Misfit entries "cluster_mgmt_api_url" Value.IsText ∨
    Misfit entries "access_token" Value.IsText ∨
      Misfit entries "request_timeout_secs" Value.IsCount

/-- The names of the settings. -/
def settingNames : List String :=
  ["api_url", "cluster_mgmt_api_url", "access_token", "request_timeout_secs"]

theorem gives_of_unnamed (h : ∀ name ∈ settingNames, name ∉ names entries) :
    Gives start entries start :=
  ⟨.absent (h _ (by decide)), .absent (h _ (by decide)), .absent (h _ (by decide)),
    .absent (h _ (by decide))⟩

theorem misfit_isSomeText_iff (name : String) :
    Misfit entries name IsSomeText ↔ Misfit entries name Value.IsText := by
  simp [Misfit, IsSomeText]

theorem exists_gives_iff (h : Distinct entries) :
    (∃ c, Gives start entries c) ↔ ¬Misfits entries := by
  rw [Misfits, not_or, not_or, not_or, ← misfit_isSomeText_iff "cluster_mgmt_api_url",
    ← misfit_isSomeText_iff "access_token", ← Given.exists_iff h start.apiUrl,
    ← Given.exists_iff h start.clusterApiUrl, ← Given.exists_iff h start.token,
    ← Given.exists_iff h start.timeoutSeconds]
  constructor
  · rintro ⟨c, hapi, hcluster, htoken, htimeout⟩
    exact ⟨⟨_, hapi⟩, ⟨_, hcluster⟩, ⟨_, htoken⟩, ⟨_, htimeout⟩⟩
  · rintro ⟨⟨api, hapi⟩, ⟨cluster, hcluster⟩, ⟨token, htoken⟩, ⟨timeout, htimeout⟩⟩
    exact ⟨⟨api, cluster, token, timeout⟩, hapi, hcluster, htoken, htimeout⟩

/-! ### The file -/

variable {path : String} {content : List UInt8} {text : List Char}

theorem ofFile_missing : ofFile path .missing = .ok default := rfl

theorem ofFile_of_not_utf8 (h : ∀ s, content ≠ Url.utf8 s) :
    ofFile path (.bytes content) =
      .error (.unreadable (Text.quoted path) "stream did not contain valid UTF-8") := by
  have hdecode : Text.Utf8.decode? content = none :=
    Option.eq_none_iff_forall_ne_some.mpr fun s hs => h s (Text.Utf8.decode?_eq_some_iff.mp hs)
  simp [ofFile, Settings.readFile, hdecode, Except.map]

theorem ofFile_of_malformed (h : parse? text = none) :
    ofFile path (.bytes (Url.utf8 text)) = .error (.malformed path none) := by
  simp [ofFile, Settings.readFile, Text.Utf8.decode?_utf8, h, Except.map]

theorem ofFile_of_entries (h : parse? text = some entries) :
    ofFile path (.bytes (Url.utf8 text)) =
      (ofEntries entries).mapError fun m => .malformed path (some (m.show text)) := by
  cases hread : ofEntries entries <;>
    simp [ofFile, Settings.readFile, Text.Utf8.decode?_utf8, h, hread, Except.map, Except.mapError]

theorem ofFile_of_unnamed (h : parse? text = some entries)
    (hnone : ∀ name ∈ settingNames, name ∉ names entries) :
    ofFile path (.bytes (Url.utf8 text)) = ofFile path .missing := by
  rw [ofFile_of_entries h, ofFile_missing, mapError_eq_ok_iff,
    ofEntries_eq_ok_iff (distinct_parse h)]
  exact gives_of_unnamed hnone

/-- What comes of a settings file. What cannot be read as a text, what is no TOML and a setting of
the wrong kind are refused, and nothing else is; else the settings are those of the entries, and
what has no entry is as it is without a file. -/
theorem outcome_of_ofFile (path : String) (file : FileState) :
    ((∃ what reason, ofFile path file = .error (.unreadable what reason)) ↔
      (∃ reason, file = .unreadable reason) ∨
        ∃ content, file = .bytes content ∧ ∀ text, content ≠ Url.utf8 text) ∧
    ((∃ p detail, ofFile path file = .error (.malformed p detail)) ↔
      ∃ text, file = .bytes (Url.utf8 text) ∧
        (parse? text = none ∨ ∃ entries, parse? text = some entries ∧ Misfits entries)) ∧
    ((∃ c, ofFile path file = .ok c) ↔ file = .missing ∨
      ∃ text entries, file = .bytes (Url.utf8 text) ∧ parse? text = some entries ∧
        ¬Misfits entries) ∧
    (∀ c, ofFile path file = .ok c ↔ file = .missing ∧ c = default ∨
      ∃ text entries, file = .bytes (Url.utf8 text) ∧ parse? text = some entries ∧
        Gives default entries c) ∧
    (∀ text entries, parse? text = some entries → (∀ name ∈ settingNames, name ∉ names entries) →
      ofFile path (.bytes (Url.utf8 text)) = ofFile path .missing) := by
  simp only [← and_assoc]
  refine ⟨?_, fun text entries => ofFile_of_unnamed⟩
  rcases file with _ | reason | content
  · simp [ofFile_missing, eq_comm]
  · simp [ofFile, Settings.readFile, Except.map]
  by_cases htext : ∃ text, content = Url.utf8 text
  · obtain ⟨text, rfl⟩ := htext
    cases hparse : parse? text with
    | none => simp [ofFile_of_malformed hparse, Text.Utf8.utf8_inj, hparse]
    | some entries =>
      have hgives : ∀ c, ofEntries entries = .ok c ↔ Gives default entries c := fun _ =>
        ofEntries_eq_ok_iff (distinct_parse hparse)
      have hmisfits : (∃ c, Gives default entries c) ↔ ¬Misfits entries :=
        exists_gives_iff (distinct_parse hparse)
      cases hread : ofEntries entries with
      | error m =>
        simp only [← hgives, hread, reduceCtorEq, exists_false, false_iff, not_not] at hmisfits
        simp [ofFile_of_entries hparse, Text.Utf8.utf8_inj, hparse, hread, Except.mapError,
          ← hgives, hmisfits]
      | ok c =>
        simp only [← hgives, hread, Except.ok.injEq, exists_eq', true_iff] at hmisfits
        simp [ofFile_of_entries hparse, Text.Utf8.utf8_inj, hparse, hread, Except.mapError,
          ← hgives, hmisfits]
  · have hnot := not_exists.mp htext
    simp [ofFile_of_not_utf8 hnot, hnot]

example : parse? "api_url = [".toList = none := by decide +kernel

example : (parse? "api_url = 'http://[::1]'\ntheme = 'dark'\n".toList).map ofEntries =
    some (.ok ⟨"http://[::1]", none, none, 30⟩) := by decide +kernel

example : ((parse? "request_timeout_secs = '30'".toList).map ofEntries).any
    (·.toOption.isNone) := by decide +kernel

end Config

end Roster
