import Mathlib.Tactic.Common

/-!
# Texts

The methods of Python's `str` that the code uses, over the whole of Unicode: `strip`, `rstrip`,
`split` and `repr`.
-/

namespace Eisenberg

def inRanges (ranges : List (Nat × Nat)) (c : Char) : Bool :=
  ranges.any fun range => range.1 ≤ c.toNat && c.toNat ≤ range.2

/-- `c.isspace()`. -/
def isSpace : Char → Bool :=
  inRanges [(0x09, 0x0d), (0x1c, 0x20), (0x85, 0x85), (0xa0, 0xa0), (0x1680, 0x1680),
    (0x2000, 0x200a), (0x2028, 0x2029), (0x202f, 0x202f), (0x205f, 0x205f), (0x3000, 0x3000)]

/-- `text.rstrip()`. -/
def rstrip (text : String) : String :=
  String.ofList (text.toList.reverse.dropWhile isSpace).reverse

/-- `text.strip()`. -/
def strip (text : String) : String := rstrip (String.ofList (text.toList.dropWhile isSpace))

/-- `text.split()`. -/
def splitWords (text : List Char) : List String :=
  (text.splitOnP isSpace).filterMap fun word =>
    if word.isEmpty then none else some (String.ofList word)

/-- `" ".join(text[:limit].split())`. -/
def snippet (limit : Nat) (text : String) : String :=
  " ".intercalate (splitWords (text.toList.take limit))

example : strip " 12\u00a034\u3000\n" = "12\u00a034" := by decide

/-- `c.isprintable()`: no separator but the blank, no control or format character, none for private
use. A code point that Unicode has not assigned yet counts as printable here. -/
def isPrintable (c : Char) : Bool :=
  !inRanges [(0x00, 0x1f), (0x7f, 0xa0), (0xad, 0xad), (0x600, 0x605), (0x61c, 0x61c),
    (0x6dd, 0x6dd), (0x70f, 0x70f), (0x890, 0x891), (0x8e2, 0x8e2), (0x1680, 0x1680),
    (0x180e, 0x180e), (0x2000, 0x200f), (0x2028, 0x202f), (0x205f, 0x206f), (0x3000, 0x3000),
    (0xe000, 0xf8ff), (0xfeff, 0xfeff), (0xfff0, 0xfffb), (0xfffe, 0xffff), (0x110bd, 0x110bd),
    (0x110cd, 0x110cd), (0x13430, 0x1343f), (0x1bca0, 0x1bca3), (0x1d173, 0x1d17a),
    (0x40000, 0xe00ff), (0xe01f0, 0x10ffff)] c

/-- The last `digits` hexadecimal digits of a number. -/
def hexDigits : Nat → Nat → List Char
  | 0, _ => []
  | digits + 1, n => hexDigits digits (n / 16) ++ [Nat.digitChar (n % 16)]

/-- `repr` of a text: quoted, with backslashes, quotes and what cannot be printed escaped. -/
def pyRepr (s : String) : String :=
  let apostrophe := Char.ofNat 39
  let doubleQuote := Char.ofNat 34
  let backslash := Char.ofNat 92
  let quote := if apostrophe ∈ s.toList ∧ doubleQuote ∉ s.toList then doubleQuote else apostrophe
  let escape (c : Char) : List Char :=
    if c = quote ∨ c = backslash then [backslash, c]
    else if c = Char.ofNat 10 then [backslash, 'n']
    else if c = Char.ofNat 13 then [backslash, 'r']
    else if c = Char.ofNat 9 then [backslash, 't']
    else if isPrintable c then [c]
    else if c.toNat < 0x100 then backslash :: 'x' :: hexDigits 2 c.toNat
    else if c.toNat < 0x10000 then backslash :: 'u' :: hexDigits 4 c.toNat
    else backslash :: 'U' :: hexDigits 8 c.toNat
  String.ofList (quote :: s.toList.flatMap escape ++ [quote])

example : pyRepr "Zu\u00a0Hause" = "'Zu\\xa0Hause'" := by decide

end Eisenberg
