/-!
# Blank characters

Four classes of white space are in use, and they differ:

* `isBlank` is the white space of trimming and word splitting: the Unicode white space
  characters together with the information separators U+001C to U+001F;
* `isWhiteSpace` is the Unicode white space property itself;
* `isFlankSpace` is the white space that decides whether an emphasis marker is flanking;
* `isSpaceOrTab` is the indentation white space of block structure.

The trimming and splitting functions here all use `isBlank`.
-/

namespace Manuscript.Text

/-- Whether `c` is blank, that is white space for trimming and splitting. -/
def isBlank (c : Char) : Bool :=
  let n := c.toNat
  (9 ≤ n && n ≤ 13) || (0x1C ≤ n && n ≤ 0x20) || n == 0x85 || n == 0xA0 || n == 0x1680 ||
  (0x2000 ≤ n && n ≤ 0x200A) || n == 0x2028 || n == 0x2029 || n == 0x202F || n == 0x205F ||
  n == 0x3000

/-- Whether `c` is white space by the Unicode standard's white space property: the blanks other
than the information separators U+001C to U+001F. -/
def isWhiteSpace (c : Char) : Bool :=
  isBlank c && !(0x1C ≤ c.toNat && c.toNat ≤ 0x1F)

/-- Whether `c` is white space next to an emphasis marker: the space separators and the
control characters from tab to carriage return. -/
def isFlankSpace (c : Char) : Bool :=
  let n := c.toNat
  (9 ≤ n && n ≤ 13) || n == 0x20 || n == 0xA0 || n == 0x1680 || (0x2000 ≤ n && n ≤ 0x200A) ||
  n == 0x202F || n == 0x205F || n == 0x3000

/-- Whether `c` is a space or a tab. -/
def isSpaceOrTab (c : Char) : Bool :=
  c == ' ' || c == '\t'

/-- Drops the characters satisfying `p` from both ends of a list. -/
def trimListBy (p : Char → Bool) (cs : List Char) : List Char :=
  ((cs.dropWhile p).reverse.dropWhile p).reverse

/-- Drops the characters satisfying `p` from the end of a list. -/
def trimListRightBy (p : Char → Bool) (cs : List Char) : List Char :=
  (cs.reverse.dropWhile p).reverse

/-- Drops blanks from both ends. -/
def trimBlank (s : String) : String :=
  String.ofList (trimListBy isBlank s.toList)

/-- Drops blanks from the start. -/
def trimBlankLeft (s : String) : String :=
  String.ofList (s.toList.dropWhile isBlank)

/-- Drops blanks from the end. -/
def trimBlankRight (s : String) : String :=
  String.ofList (trimListRightBy isBlank s.toList)

/-- Drops the characters of `set` from both ends. -/
def trimChars (s : String) (set : List Char) : String :=
  String.ofList (trimListBy (fun c => set.contains c) s.toList)

/-- Drops the characters of `set` from the end. -/
def trimCharsRight (s : String) (set : List Char) : String :=
  String.ofList (trimListRightBy (fun c => set.contains c) s.toList)

/-- Splits a list at runs of blanks, dropping empty pieces. -/
def splitBlankList : List Char → List (List Char) → List Char → List (List Char)
  | [], acc, cur => (if cur.isEmpty then acc else cur.reverse :: acc).reverse
  | c :: rest, acc, cur =>
    if isBlank c then splitBlankList rest (if cur.isEmpty then acc else cur.reverse :: acc) []
    else splitBlankList rest acc (c :: cur)

/-- The words of `s`: the maximal runs of characters that are not blank. -/
def splitBlank (s : String) : List String :=
  (splitBlankList s.toList [] []).map String.ofList

/-- Whether `s` holds only blanks. -/
def isAllBlank (s : String) : Bool :=
  s.toList.all isBlank

end Manuscript.Text
