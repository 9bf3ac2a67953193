import Roster.Decimal.Layout
import Roster.Text.Quoted
import Roster.Toml.Basic
/-!
# Values of the right kind

What a program wants from a document: texts, counts, tables. A value of another kind is refused at
its place, or at its key when it has none. The refusal shows the line and points at the value.
-/

namespace Roster.Toml

/-- What is wrong with a value, and where if that is known. -/
structure Mismatch where
  message : String
  span : Option Span
  deriving Repr, DecidableEq

/-- A double as it is spoken of, never without a point. -/
def describeReal (x : Float) : String :=
  if x.isNaN then "NaN"
  else if x.isInf then if 0 < x then "inf" else "-inf"
  else String.ofList (Decimal.Layout.full.float x)

def Value.describe : Value → String
  | .string _ s => "string " ++ Text.quoted s
  | .integer _ i => "integer `" ++ toString i ++ "`"
  | .real _ x => "floating point `" ++ describeReal x ++ "`"
  | .bool _ b => "boolean `" ++ (if b then "true" else "false") ++ "`"
  | .moment _ _ | .table _ _ _ => "map"
  | .array _ _ | .tables _ _ => "sequence"

/-- Refuses a value of another kind than expected. -/
def refuse {α : Type} (v : Value) (expected : String) : Except Mismatch α :=
  .error ⟨"invalid type: " ++ v.describe ++ ", expected " ++ expected, v.span?⟩

/-- A refusal without a place is blamed on the key. -/
def atKey {α : Type} (key : Key) : Except Mismatch α → Except Mismatch α :=
  Except.mapError fun m => { m with span := m.span.or (some key.span) }

def Value.text : Value → Except Mismatch String
  | .string _ s => .ok s
  | v => refuse v "a string"

/-- A whole number from zero. -/
def Value.count : Value → Except Mismatch Nat
  | .integer span i =>
    if 0 ≤ i then .ok i.toNat
    else .error ⟨"invalid value: integer `" ++ toString i ++ "`, expected u64", some span⟩
  | v => refuse v "u64"

/-! ### Showing a refusal -/

/-- Where characters stand: the line and column of the first, from zero, the text of that line, and
how many bytes they take. -/
structure Excerpt where
  line : Nat
  column : Nat
  text : List Char
  width : Nat

/-- The bytes that characters take. -/
def byteCount (s : List Char) : Nat := s.foldl (fun n c => n + c.utf8Size) 0

/-- What a span covers. -/
def excerpt (source : List Char) (span : Span) : Excerpt :=
  let start := source.length - span.start
  let before := source.take start
  let onLine := (before.reverse.takeWhile (· ≠ '\n')).reverse
  let line := onLine ++ (source.drop start).takeWhile (· ≠ '\n')
  ⟨(before.filter (· = '\n')).length, onLine.length, line,
    byteCount ((source.drop start).take (span.start - span.stop))⟩

/-- The marks under an excerpt: at least one, and none behind the line. -/
def Excerpt.marks (e : Excerpt) : Nat := max 1 (min e.width (byteCount e.text - e.column))

/-- A refusal with the line that it is about. -/
def Mismatch.show (m : Mismatch) (source : List Char) : String :=
  let quote := match m.span with
    | none => ""
    | some span =>
      let e := excerpt source span
      let line := toString (e.line + 1)
      let gutter := String.ofList (List.replicate (line.length + 1) ' ') ++ "|"
      "TOML parse error at line " ++ line ++ ", column " ++ toString (e.column + 1) ++ "\n" ++
        gutter ++ "\n" ++ line ++ " | " ++ String.ofList e.text ++ "\n" ++ gutter ++
        String.ofList (List.replicate (e.column + 1) ' ' ++ List.replicate e.marks '^') ++ "\n"
  quote ++ m.message ++ "\n"

end Roster.Toml
