import Roster.Text.Width.Table
/-!
# Display width

How many columns of a fixed-width terminal a text takes. Most characters add their own width; some
sequences are drawn together: emoji with selectors, skin tones or joiners, and a few ligatures. The
text is read from its end, so that a character knows what it stands in front of.
-/

namespace Roster.Text.Width

/-- What stands behind a character, as far as it matters for the width of both together. -/
inductive Kind where
  | plain
  | lineFeed
  | skinTone
  | regional
  | regionals
  | emoji
  | joinedEmoji
  | joinedKeycap
  | joinedRegional
  | joinedEven
  | joinedOdd
  | joinedTag (letters : Nat)
  | alef
  | lamed (joined : Bool)
  | buginese (joined : Bool)
  | bugineseVowel
  | tifinagh (joined : Bool)
  | tifinaghJoiner
  | lisuTone
  | orkhon (joined : Bool)
  | khmer
  | rai
  | raiLong
  deriving DecidableEq

/-- A variation selector between a character and what stands behind it. -/
inductive Selector where
  | none
  | asText
  | asEmoji
  deriving DecidableEq

structure Follower where
  kind : Kind
  selector : Selector
  deriving DecidableEq

def isRegional (n : Nat) : Bool := 0x1F1E6 ≤ n && n ≤ 0x1F1FF

def isSkinTone (n : Nat) : Bool := 0x1F3FB ≤ n && n ≤ 0x1F3FF

def isTifinagh (n : Nat) : Bool := (0x2D31 ≤ n && n ≤ 0x2D65) || n == 0x2D6F

def isAlef (n : Nat) : Bool :=
  n == 0x622 || n == 0x623 || n == 0x625 || n == 0x627 || (0x671 ≤ n && n ≤ 0x673) || n == 0x675
    || n == 0x773 || n == 0x774 || (0x870 ≤ n && n ≤ 0x882)

def isLam (n : Nat) : Bool :=
  n == 0x644 || (0x6B5 ≤ n && n ≤ 0x6B8) || n == 0x76A || n == 0x8A6 || n == 0x8C7

/-- Khmer letters that can be written below the one before them. -/
def isKhmerStacked (n : Nat) : Bool :=
  (0x1780 ≤ n && n ≤ 0x1782) || (0x1784 ≤ n && n ≤ 0x1787) || (0x1789 ≤ n && n ≤ 0x178C)
    || (0x178E ≤ n && n ≤ 0x1793) || (0x1795 ≤ n && n ≤ 0x1798) || (0x179B ≤ n && n ≤ 0x179D)
    || n == 0x17A0 || n == 0x17A2 || n == 0x17A7 || n == 0x17AB || n == 0x17AC || n == 0x17AF

/-- Marks that do not come between the parts of a ligature. -/
def isIgnoredMark (n : Nat) : Bool :=
  n == 0x34F || n == 0x17B4 || n == 0x17B5 || (0x180B ≤ n && n ≤ 0x180D) || n == 0x180F
    || n == 0x200D || (0xFE00 ≤ n && n ≤ 0xFE0F) || (0xE0100 ≤ n && n ≤ 0xE01EF)

/-- Ligatures that ignored marks and joiners do not interrupt. -/
def Kind.passesMarks : Kind → Bool
  | lamed _ | buginese _ | bugineseVowel | tifinagh _ | tifinaghJoiner | lisuTone | orkhon _ | khmer
  | rai | raiLong => true
  | _ => false

/-- The state after a joiner. -/
def Kind.join : Kind → Kind
  | lamed _ => lamed true
  | buginese _ => buginese true
  | tifinagh _ => tifinagh true
  | orkhon _ => orkhon true
  | k => k

/-- A character on its own: its width and what it is to the character before it. -/
def alone (c : Char) : Nat × Follower :=
  let n := c.toNat
  let as (w : Nat) (k : Kind) : Nat × Follower := (w, ⟨k, .none⟩)
  if n = 0xFE0F then (0, ⟨.plain, .asEmoji⟩)
  else if n = 0xFE0E then (0, ⟨.plain, .asText⟩)
  else if n = 0x17D8 then as 3 .plain
  else if noColumn.contains c then as 0 .plain
  else if isRegional n then as 1 .regional
  else if isSkinTone n then as 2 .skinTone
  else if emoji.contains c then as 2 .emoji
  else if isAlef n then as 1 .alef
  else if n = 0x5DC then as 1 (.lamed false)
  else if n = 0x1A10 then as 1 (.buginese false)
  else if isTifinagh n then as 1 (.tifinagh false)
  else if n = 0xA4FC ∨ n = 0xA4FD then as 1 .lisuTone
  else if n = 0x10C03 then as 1 (.orkhon false)
  else if isKhmerStacked n then as 1 .khmer
  else if n = 0x16D67 then as 1 .rai
  else if n = 0x16D68 then as 1 .raiLong
  else if twoColumns.contains c then as 2 .plain
  else as 1 .plain

/-- The sequences in which `c` in front of `kind` differs from `c` alone. -/
def together? (c : Char) (kind : Kind) : Option (Int × Kind) :=
  let n := c.toNat
  match kind with
  | .alef =>
    if isLam n then some (0, .plain)
    else if joinTransparent.contains c then some (0, .alef)
    else none
  | .lamed true => if n = 0x5D0 then some (0, .plain) else none
  | .khmer => if n = 0x17D2 then some (-1, .plain) else none
  | .buginese true => if n = 0x1A17 then some (0, .bugineseVowel) else none
  | .bugineseVowel => if n = 0x1A15 then some (0, .plain) else none
  | .tifinagh joined =>
    if n = 0x2D7F then some (1, .tifinaghJoiner)
    else if joined && isTifinagh n then some (0, .plain) else none
  | .tifinaghJoiner => if isTifinagh n then some (-1, .plain) else none
  | .lisuTone => if 0xA4F8 ≤ n ∧ n ≤ 0xA4FB then some (0, .plain) else none
  | .orkhon true => if n = 0x10C32 then some (0, .plain) else none
  | .rai =>
    if n = 0x16D63 ∨ n = 0x16D69 then some (0, .plain)
    else if n = 0x16D67 then some (0, .raiLong)
    else if n = 0x16D68 then some (1, .rai) else none
  | .raiLong => if n = 0x16D63 then some (0, .plain) else none
  | .skinTone =>
    if modifierBase.contains c then some (0, .emoji)
    else if n = 0x200D then some (0, .joinedEmoji) else none
  | .regional => if isRegional n then some (1, .regionals) else none
  | .regionals =>
    if isRegional n then some (1, .regionals)
    else if n = 0x200D then some (0, .joinedEmoji) else none
  | .emoji => if n = 0x200D then some (0, .joinedEmoji) else none
  | .joinedEmoji =>
    if n = 0x20E3 then some (0, .joinedKeycap)
    else if isRegional n then some (1, .joinedRegional)
    else if isSkinTone n then some (0, .skinTone)
    else if n = 0xE007F then some (0, .joinedTag 0)
    else if emoji.contains c then some (0, .emoji) else none
  | .joinedRegional => if isRegional n then some (-1, .joinedEven) else none
  | .joinedEven =>
    if isRegional n then some (3, .joinedOdd)
    else if n = 0x200D then some (0, .joinedEmoji) else none
  | .joinedOdd =>
    if isRegional n then some (-1, .joinedEven)
    else if n = 0x200D then some (0, .joinedEmoji) else none
  | .joinedTag k =>
    if (0xE0061 ≤ n ∧ n ≤ 0xE007A) ∨ (0xE0030 ≤ n ∧ n ≤ 0xE0039) then
      if k < 6 then some (0, .joinedTag (k + 1)) else none
    else if n = 0x1F3F4 ∧ 3 ≤ k then some (0, .emoji) else none
  | _ => none

/-- The width that `c` adds in front of what follows, and what both are to the character before. -/
def add (c : Char) (next : Follower) : Int × Follower :=
  let own := fun (_ : Unit) => let (w, f) := alone c; ((w : Int), f)
  if next.selector = .asEmoji ∧ emojiBase.contains c then
    (if next.kind = .joinedEmoji then 0 else 2, ⟨.emoji, .none⟩)
  else if c.toNat ≤ 0xA0 then
    if c = '\r' ∧ next.kind = .lineFeed then (0, ⟨.plain, .none⟩)
    else if next.selector = .asEmoji ∧ next.kind = .joinedKeycap
        ∧ (c.isDigit ∨ c = '#' ∨ c = '*') then
      (0, ⟨.emoji, .none⟩)
    else (1, ⟨if c = '\n' then .lineFeed else .plain, .none⟩)
  else if next = ⟨.plain, .none⟩ then own ()
  else if c.toNat = 0xFE0F then
    let kept := next.kind.passesMarks || next.kind == .joinedEmoji || next.kind == .joinedKeycap
    (0, ⟨if kept then next.kind else .plain, .asEmoji⟩)
  else if c.toNat = 0xFE0E then
    (0, ⟨if next.kind.passesMarks then next.kind else .plain, .asText⟩)
  else if next.selector = .asText ∧ textBase.contains c then (1, ⟨.plain, .none⟩)
  else
    let kind :=
      if next.selector = .none || next.kind.passesMarks then next.kind else .plain
    if kind.passesMarks && c.toNat = 0x200D then (0, ⟨kind.join, .none⟩)
    else if kind.passesMarks && isIgnoredMark c.toNat then (0, ⟨kind, .none⟩)
    else
      match together? c kind with
      | some (w, k) => (w, ⟨k, .none⟩)
      | none => own ()

/-- Width and first state of a text. -/
def measure : List Char → Int × Follower
  | [] => (0, ⟨.plain, .none⟩)
  | c :: rest =>
    let (sum, next) := measure rest
    let (w, state) := add c next
    (sum + w, state)

/-- The columns that a text takes. -/
def columns (line : List Char) : Nat := (measure line).1.toNat

end Roster.Text.Width
