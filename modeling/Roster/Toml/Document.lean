import Roster.Toml.Parser
/-!
# Reading documents

A document is a sequence of lines with headings and entries. The table under a heading is put in its
place once the next heading or the end of the text is reached. No table is headed twice and no key
set twice.
-/

namespace Roster.Toml

/-- The document before the current heading, and the table under it. -/
structure Draft where
  root : Entries
  /-- The current heading; empty before the first. -/
  path : List Key
  /-- Whether the heading adds a table to several with the same name. -/
  repeated : Bool
  span : Option Span
  entries : Entries

namespace Draft

def empty : Draft := ⟨[], [], false, none, []⟩

/-- The place of several tables, from the first to the last of them. -/
def spanOfAll (items : List Value) : Option Span := do
  let first ← (← items.head?).span?
  let last ← (← items.getLast?).span?
  some ⟨first.start, last.stop⟩

/-- Adds a table behind others with the same heading. -/
def addRepeated (name : String) (t : Value) : Entries → Option Entries
  | [] => none
  | (key, v) :: rest =>
    if key.name = name then
      match v with
      | .tables _ items => some ((key, .tables (spanOfAll (items ++ [t])) (items ++ [t])) :: rest)
      | _ => none
    else (addRepeated name t rest).map ((key, v) :: ·)

/-- The entries of the document with the current table in its place. -/
def close (d : Draft) : Option Entries :=
  match d.path.getLast? with
  | none => some d.entries
  | some key =>
    let t : Value := .table .headed d.span d.entries
    let change (_ : Role) (entries : Entries) : Option (Entries × Unit) :=
      if d.repeated then (addRepeated key.name t entries).map (·, ())
      else some (entries ++ [(key, t)], ())
    (changeAt false change d.path.dropLast .headed d.root).map Prod.fst

/-- The entries that a heading finds, and the others: none, or those of a table that was only
implied. -/
def takeImplied (name : String) : Entries → Option (Entries × Entries)
  | [] => some ([], [])
  | (key, v) :: rest =>
    if key.name = name then
      match v with
      | .table .implied _ inner => some (rest, inner)
      | _ => none
    else (takeImplied name rest).map fun (others, inner) => ((key, v) :: others, inner)

/-- Goes on with a new heading. -/
def startTable (d : Draft) (path : List Key) (span : Span) : Option Draft := do
  let root ← d.close
  let key ← path.getLast?
  let (root, inner) ←
    changeAt false (fun _ entries => takeImplied key.name entries) path.dropLast .headed root
  some ⟨root, path, false, some span, inner⟩

/-- Goes on with a heading that may come several times. -/
def startRepeated (d : Draft) (path : List Key) (span : Span) : Option Draft := do
  let root ← d.close
  let key ← path.getLast?
  let change (_ : Role) (entries : Entries) : Option (Entries × Unit) :=
    match entries.get? key.name with
    | none => some (entries ++ [(key, .tables none [])], ())
    | some (.tables _ _) => some (entries, ())
    | some _ => none
  let (root, _) ← changeAt false change path.dropLast .headed root
  some ⟨root, path, true, some span, []⟩

/-- Adds an entry under the current heading, whose table then reaches as far as the entry does. -/
def add (d : Draft) (path : List Key) (v : Value) : Option Draft := do
  let entries ← addEntry path v d.entries
  let span := match d.span, v.span? with
    | some span, some s => some ⟨span.start, s.stop⟩
    | span, _ => span
  some { d with entries := entries, span := span }

end Draft

/-- A heading and the rest of its line. -/
def readHeading (d : Draft) (s : List Char) : Option (Draft × List Char) :=
  match s with
  | '[' :: '[' :: rest => do
    let (path, rest) ← readPath rest
    let rest ← readMark ']' (← readMark ']' rest)
    some (← d.startRepeated path ⟨s.length, rest.length⟩, ← endLine? rest)
  | '[' :: rest => do
    let (path, rest) ← readPath rest
    let rest ← readMark ']' rest
    some (← d.startTable path ⟨s.length, rest.length⟩, ← endLine? rest)
  | _ => none

/-- An entry and the rest of its line. -/
def readEntry (d : Draft) (s : List Char) : Option (Draft × List Char) := do
  let (path, rest) ← readPath s
  let rest ← readMark '=' rest
  let (v, rest) ← readValue (2 * rest.length + 2) maxDepth (skipBlanks rest)
  some (← d.add path v, ← endLine? rest)

/-- The lines of a document. -/
def readLines : (fuel : Nat) → Draft → List Char → Option Draft
  | 0, _, _ => none
  | fuel + 1, d, s =>
    match skipBlanks s with
    | [] => some d
    | '#' :: rest => do readLines fuel d (← endLine? ('#' :: rest))
    | '[' :: rest => do
      let (d, rest) ← readHeading d ('[' :: rest)
      readLines fuel d rest
    | c :: rest =>
      match newline? (c :: rest) with
      | some rest => readLines fuel d rest
      | none => do
        let (d, rest) ← readEntry d (c :: rest)
        readLines fuel d rest

/-- A document, after a byte order mark if it has one. -/
def parse? (s : List Char) : Option Entries := do
  let text := match s with
    | '\ufeff' :: rest => rest
    | _ => s
  (← readLines (text.length + 1) .empty text).close

end Roster.Toml
