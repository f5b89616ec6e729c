import SeriesQuery.Unicode.Category
import SeriesQuery.Unicode.Property

/-! # Quoted texts

A text between double quotes, as messages show file paths. Double quotes, backslashes and control
characters are escaped, and so is everything that leaves no mark of its own: combining marks, format
characters, unusual blanks and unassigned code points are written by number.
-/

namespace SeriesQuery.Quoted

open Unicode

/-- Separators and control, format and private characters; the plain blank aside, none is shown. -/
private def hiddenCategories : Ranges :=
  categoryRanges ["cc", "cf", "co", "zs", "zl", "zp"]

private def combining : Ranges := propertyRanges "graphemeextend"

/-- Characters with a mark of their own that are younger than the tables of categories; they came with
version 17.0 of the standard. -/
private def youngest : Ranges := .ofText
  "88F C5C CDC 20C1 2B96 A7CE-A7CF A7D2 A7D4 A7F1 FBC3-FBD2 FD90-FD91 FDC8-FDCE 10940-10959
10EC5-10EC7 10ED0-10ED8 11B61 11B65 11B67 11DB0-11DDB 11DE0-11DE9 16EA0-16EB8 16EBB-16ED3
16FF2-16FF6 187F8-187FF 18D09-18D1E 18D80-18DF2 1CCFA-1CCFC 1CEBA-1CED0 1CEE0-1CEF0 1E6C0-1E6DE
1E6E0-1E6E2 1E6E4-1E6E5 1E6E7-1E6ED 1E6F0-1E6F4 1E6FE-1E6FF 1F6D8 1F777-1F77A 1F8D0-1F8D8
1FA54-1FA57 1FA8A 1FA8E 1FAC8 1FACD 1FAEA 1FAEF 1FBFA 2B73A-2B73F 2CEA2-2CEAD 323B0-33479"

/-- Whether a character stands for itself between quotes. -/
def isShown (c : Char) : Bool :=
  if c.toNat < 0x7F then decide (0x20 ≤ c.toNat)
  else
    !combining.contains c && !hiddenCategories.contains c &&
      (!unassigned.contains c || youngest.contains c)

def escape (c : Char) : List Char :=
  if c = '\x00' then ['\\', '0']
  else if c = '\t' then ['\\', 't']
  else if c = '\r' then ['\\', 'r']
  else if c = '\n' then ['\\', 'n']
  else if c = '\\' ∨ c = '"' then ['\\', c]
  else if isShown c then [c]
  else '\\' :: 'u' :: '\x7b' :: Nat.toDigits 16 c.toNat ++ ['\x7d']

def quote (s : String) : String := String.ofList ('"' :: s.toList.flatMap escape ++ ['"'])

end SeriesQuery.Quoted
