import EdgeFleet.Text.Mark
import EdgeFleet.Text.Printable
import EdgeFleet.Uri.Punycode

/-!
# Host names

A host name is brought to one form before it is judged: letters become small, full-width and other
variants become the characters that they stand for, and invisible characters vanish. Then no
delimiter may be left, every label must be well formed, and labels of scripts written from right to
left must not be mixed with others. `HostName.normalize?` gives the name in that form.
-/

namespace EdgeFleet.Uri.HostName

open Text

/-- The ASCII characters that no host name may hold. -/
def isDelimiter (c : Char) : Bool :=
  c.toNat ≤ 32 || c.toNat == 127 || "%#/:<>?@[\\]^|".toList.contains c

/-- The characters that have no shape and are left out. -/
def isIgnored (c : Char) : Bool :=
  let n := c.toNat
  [0xAD, 0x34F, 0x180B, 0x180C, 0x180D, 0x180F, 0x200B, 0x2060, 0x2064, 0xFEFF].contains n ||
    (0xFE00 ≤ n && n ≤ 0xFE0F) || (0xE0100 ≤ n && n ≤ 0xE01EF)

/-- The invisible joiners, which are kept and checked with their neighbours. -/
def isJoiner (c : Char) : Bool :=
  c.toNat == 0x200C || c.toNat == 0x200D

/-- The digits that have variant forms: superscript, subscript and mathematical ones. -/
def variantDigit? (n : Nat) : Option Char :=
  if n == 0xB9 then some '1'
  else if n == 0xB2 || n == 0xB3 then some (Char.ofNat (n - 0xB0 + 48))
  else if n == 0x2070 || (0x2074 ≤ n && n ≤ 0x2079) then some (Char.ofNat (n - 0x2070 + 48))
  else if 0x2080 ≤ n && n ≤ 0x2089 then some (Char.ofNat (n - 0x2080 + 48))
  else if 0x2460 ≤ n && n ≤ 0x2468 then some (Char.ofNat (n - 0x2460 + 49))
  else if n == 0x24EA then some '0'
  else if 0x1D7CE ≤ n && n ≤ 0x1D7FF then some (Char.ofNat ((n - 0x1D7CE) % 10 + 48))
  else if 0x1FBF0 ≤ n && n ≤ 0x1FBF9 then some (Char.ofNat (n - 0x1FBF0 + 48))
  else none

/-- What a character becomes: nothing when it is refused, else the characters in its place. -/
def map? (c : Char) : Option (List Char) :=
  let n := c.toNat
  if n < 128 then some [c.toLower]
  else if isIgnored c then some []
  else if isJoiner c then some [c]
  else if n == 0x3002 || n == 0xFF0E || n == 0xFF61 then some ['.']
  else if 0xFF01 ≤ n && n ≤ 0xFF5E then some [(Char.ofNat (n - 0xFEE0)).toLower]
  else
    match variantDigit? n with
    | some digit => some [digit]
    | none =>
      if delimiterSymbols.contains n then none
      else if isPrintable c || isMark c then some [c]
      else none

/-- The labels of a name. -/
def labels : List Char → List (List Char)
  | [] => [[]]
  | c :: rest =>
    if c == '.' then [] :: labels rest
    else
      match labels rest with
      | [] => [[c]]
      | label :: others => (c :: label) :: others

/-- Whether every joiner comes right after a sign that silences a vowel. -/
def joinersFit : Option Char → List Char → Bool
  | _, [] => true
  | before, c :: rest =>
    (!isJoiner c || before.any fun b => viramas.contains b.toNat) && joinersFit (some c) rest

/-- Whether a label with other than ASCII characters is well formed. -/
def isWellFormed (label : List Char) : Bool :=
  !(label.head?.any isMark) && joinersFit none label

/-- A label behind `xn--` must stand for characters that are already in their one form, not all of
them ASCII. -/
def isWellFormedAscii (label : List Char) : Bool :=
  if label.take 4 == "xn--".toList then
    match Punycode.decode? (label.drop 4) with
    | none => false
    | some decoded =>
      decoded.any (·.toNat ≥ 128) && decoded.all (fun c => map? c == some [c]) &&
        isWellFormed decoded
  else true

/-- Letters of the scripts that are written from right to left. -/
def isRightToLeft (c : Char) : Bool :=
  let n := c.toNat
  !isMark c &&
    ((0x5BE ≤ n && n ≤ 0x8FF && !(0x660 ≤ n && n ≤ 0x66C) && !(0x6F0 ≤ n && n ≤ 0x6F9)) ||
      (0xFB1D ≤ n && n ≤ 0xFDFF) || (0xFE70 ≤ n && n ≤ 0xFEFC) ||
      (0x10800 ≤ n && n ≤ 0x10FFF) || (0x1E800 ≤ n && n ≤ 0x1EFFF))

/-- Digits used with the Arabic script. -/
def isArabicDigit (c : Char) : Bool :=
  0x660 ≤ c.toNat && c.toNat ≤ 0x669

/-- Digits of the common kind. -/
def isCommonDigit (c : Char) : Bool :=
  c.isDigit || (0x6F0 ≤ c.toNat && c.toNat ≤ 0x6F9)

/-- Letters of the scripts that are written from left to right. -/
def isLeftToRight (c : Char) : Bool :=
  !isRightToLeft c && !isArabicDigit c && !isCommonDigit c && !isMark c &&
    (c.isAlpha || c.toNat ≥ 0xC0) && !(0x2000 ≤ c.toNat && c.toNat ≤ 0x2BFF)

/-- The characters of a label before the marks at its end. -/
def withoutTrailingMarks (label : List Char) : List Char :=
  (label.reverse.dropWhile isMark).reverse

/-- Whether a label of a name with right-to-left letters keeps one direction. -/
def keepsDirection (label : List Char) : Bool :=
  match label, (withoutTrailingMarks label).getLast? with
  | [], _ => true
  | first :: _, last =>
    if isRightToLeft first then
      !label.any isLeftToRight && !(label.any isCommonDigit && label.any isArabicDigit) &&
        last.any fun c => isRightToLeft c || isCommonDigit c || isArabicDigit c
    else
      isLeftToRight first && !label.any (fun c => isRightToLeft c || isArabicDigit c) &&
        last.any fun c => isLeftToRight c || isCommonDigit c

/-- The characters that a label shows. -/
def shown (label : List Char) : List Char :=
  if label.take 4 == "xn--".toList then (Punycode.decode? (label.drop 4)).getD label else label

/-- Whether all labels keep one direction, if any of them has right-to-left letters or digits. -/
def directionsFit (labels : List (List Char)) : Bool :=
  let labels := labels.map shown
  if labels.any (·.any fun c => isRightToLeft c || isArabicDigit c) then labels.all keepsDirection
  else true

/-- The one form of a host name, if the name is allowed. -/
def normalize? (name : List Char) : Option (List Char) := do
  let mapped ← name.mapM map?
  let name := mapped.flatten
  if name.any isDelimiter then none
  let parts := labels name
  let wellFormed := parts.all fun label =>
    if label.all (·.toNat < 128) then isWellFormedAscii label else isWellFormed label
  if wellFormed && directionsFit parts then return name else none

end EdgeFleet.Uri.HostName
