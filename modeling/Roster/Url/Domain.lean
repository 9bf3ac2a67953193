import Roster.Text.Normal
import Roster.Url.Domain.Table
import Roster.Url.Domain.Classes
import Roster.Url.Domain.Punycode
/-!
# Domain names

A domain name in ASCII. Characters are mapped to the ones that names are made of and composed; a
label with others than ASCII in it is written in Punycode behind `xn--`. A label that is given in
that form has to stand for one that could have been written out.
-/

namespace Roster.Url.Domain

open Text

def mapping : CodeTable := CodeTable.ofText mappingTable

/-- What a character becomes in a name; `none` when it may not stand there. -/
def mapChar (c : Char) : Option (List Char) :=
  match mapping.find? c with
  | none => none
  | some e =>
    match e.mark, e.values with
    | some '!', _ => some []
    | some '~', values => some (values.map Char.ofNat)
    | some '+', _ => some [Char.ofNat (c.toNat + if (c.toNat - e.first) % 2 = 0 then 1 else 0)]
    | some _, [n] => some [Char.ofNat (n + (c.toNat - e.first))]
    | some _, values => some (values.map Char.ofNat)
    | none, _ => some [c]

/-- Whether a character stays as it is. -/
def isStable (c : Char) : Bool := mapChar c == some [c]

def mapName (name : List Char) : Option (List Char) := (name.mapM mapChar).map List.flatten

/-! ### Joiners -/

/-- A joiner may follow a character that ends a half form. -/
def afterVirama (before : List Char) : Bool :=
  match before with
  | c :: _ => Normal.combiningClass c == 9
  | [] => false

/-- A non-joiner may separate two letters that would join; `before` is given backwards. -/
def separates (before after : List Char) : Bool :=
  let left := before.find? (!transparentJoining.contains ·)
  let right := after.find? (!transparentJoining.contains ·)
  left.any (fun c => leftJoining.contains c || dualJoining.contains c) &&
    right.any (fun c => rightJoining.contains c || dualJoining.contains c)

/-- Whether every joiner of a label is where it may be; `before` is what was passed, backwards. -/
def joinersFit (before : List Char) : List Char → Bool
  | [] => true
  | c :: after =>
    (if c = '\u200c' then afterVirama before || separates before after
      else if c = '\u200d' then afterVirama before
      else true) && joinersFit (c :: before) after

/-! ### Direction -/

def isArabicNumber (c : Char) : Bool := arabicNumbers.contains c

def isRightToLeft (c : Char) : Bool := rightToLeft.contains c

def isDirectionless (c : Char) : Bool := neutral.contains c || nonspacing.contains c

def isLeftToRight (c : Char) : Bool :=
  !(isRightToLeft c || isArabicNumber c || europeanNumbers.contains c || isDirectionless c)

/-- Whether a label keeps to one direction, which its first letter decides. -/
def keepsDirection (label : List Char) : Bool :=
  let last := label.reverse.find? (!nonspacing.contains ·)
  match label with
  | [] => true
  | c :: _ =>
    if isRightToLeft c then
      label.all (!isLeftToRight ·) &&
        last.any (fun c => isRightToLeft c || isArabicNumber c || europeanNumbers.contains c) &&
        !(label.any (europeanNumbers.contains ·) && label.any isArabicNumber)
    else
      isLeftToRight c && label.all (fun c => !(isRightToLeft c || isArabicNumber c)) &&
        last.any (fun c => isLeftToRight c || europeanNumbers.contains c)

/-! ### Labels and names -/

def isAscii (s : List Char) : Bool := s.all (·.toNat < 128)

/-- The mark in front of a label in Punycode. -/
def codedMark : List Char := ['x', 'n', '-', '-']

/-- The label that a label stands for, if it may stand in a name. -/
def readLabel? (label : List Char) : Option (List Char) :=
  if codedMark.isPrefixOf label then do
    let read ← Punycode.decode? (label.drop codedMark.length)
    if isAscii read ∨ Normal.compose read ≠ read then none else some read
  else some label

/-- Whether a label with characters outside ASCII obeys the rules for them. -/
def isProper (label : List Char) : Bool :=
  isAscii label ||
    label.all (fun c => isStable c && c != '.') && !(label.head?.any (marks.contains ·)) &&
      joinersFit [] label

def writeLabel (label : List Char) : List Char :=
  if isAscii label then label else codedMark ++ Punycode.encode label

/-- Characters of ASCII that no host name has. -/
def isForbidden (c : Char) : Bool :=
  c.toNat ≤ 32 || c.toNat == 127 || "%#/:<>?@[\\]^|".toList.contains c

/-- A name in ASCII; `none` when it is not a name. -/
def toAscii? (name : List Char) : Option (List Char) := do
  let mapped ← mapName name
  if mapped.any isForbidden then none
  else
    let labels ← (splitOn '.' (Normal.compose mapped)).mapM readLabel?
    let turns := labels.any (·.any fun c => isRightToLeft c || isArabicNumber c)
    if labels.all isProper && (!turns || labels.all keepsDirection) then
      some (joinWith '.' (labels.map writeLabel))
    else none

end Roster.Url.Domain
