import Roster.Text.Split
import Roster.Url.Percent
/-!
# Paths

A path is a list of segments. A segment of one dot stands for nothing, one of two dots removes the
segment before it; either dot may be percent encoded. Drive letters are never removed, and the first
segment of a file's path is written with a colon when it is a drive letter.
-/

namespace Roster.Url

/-- How a scheme reads what comes behind it. -/
inductive SchemeKind where
  /-- Always has a host, and takes backslashes for slashes. -/
  | web
  | file
  | other
  deriving Repr, DecidableEq

def SchemeKind.isSpecial (k : SchemeKind) : Bool := k != .other

def isSlash (k : SchemeKind) (c : Char) : Bool := c == '/' || (c == '\\' && k.isSpecial)

/-- A dot, as it is or percent encoded, and what follows it. -/
def dropDot : List Char → Option (List Char)
  | '.' :: rest => some rest
  | '%' :: '2' :: 'e' :: rest => some rest
  | '%' :: '2' :: 'E' :: rest => some rest
  | _ => none

def isSingleDot (segment : List Char) : Bool := dropDot segment == some []

def isDoubleDot (segment : List Char) : Bool := (dropDot segment).bind dropDot == some []

/-- A letter and a colon or bar, with nothing or a backslash behind it. -/
def startsWithDrive : List Char → Bool
  | c :: d :: rest =>
    c.isAlpha && (d == ':' || d == '|') && (rest.isEmpty || rest.head? == some '\\')
  | _ => false

def isDrive (segment : List Char) : Bool := startsWithDrive segment && segment.length == 2

/-- Removes the last of the segments given backwards, unless it is a drive letter. -/
def dropSegment : List (List Char) → List (List Char)
  | [] => []
  | last :: before => if startsWithDrive last then last :: before else before

/-- A segment as it is written; `before` is given backwards. -/
def writeSegment (k : SchemeKind) (before : List (List Char)) (segment : List Char) : List Char :=
  if k = .file ∧ before.isEmpty ∧ isDrive segment then segment.take 1 ++ [':']
  else percentEncode keepPath segment

/-- The segments of a path, from those before, given backwards, and those still to come. -/
def resolve (k : SchemeKind) (before : List (List Char)) : List (List Char) → List (List Char)
  | [] => before.reverse
  | [last] =>
    if isDoubleDot last then ([] :: dropSegment before).reverse
    else if isSingleDot last then ([] :: before).reverse
    else (writeSegment k before last :: before).reverse
  | segment :: rest =>
    if isDoubleDot segment then resolve k (dropSegment before) rest
    else if isSingleDot segment then resolve k before rest
    else resolve k (writeSegment k before segment :: before) rest

def joinSegments (segments : List (List Char)) : List Char := segments.flatMap ('/' :: ·)

/-- A file's path does not start with empty segments. -/
def dropEmpty : List (List Char) → List (List Char)
  | [] :: segment :: rest => dropEmpty (segment :: rest)
  | segments => segments

/-- The segments of the text of a path, a slash in front of it aside. -/
def readSegments (k : SchemeKind) (s : List Char) : List (List Char) :=
  let s := if k.isSpecial then s.map fun c => if c = '\\' then '/' else c else s
  Text.splitOn '/' (match s with
    | '/' :: rest => rest
    | _ => s)

/-- A path from its text. -/
def readPath (k : SchemeKind) (s : List Char) : List Char :=
  let segments := resolve k [] (readSegments k s)
  joinSegments (if k = .file then dropEmpty segments else segments)

end Roster.Url
