import Manuscript.Text.Printable

/-!
# Quoted text

`quote` writes a text as a Python string literal, the way the generated programs and the
messages of this library show text. The literal is in single quotes, or in double quotes when
the text holds a single quote and no double quote. Inside it the backslash and the chosen quote
are escaped, tab, line feed and carriage return have their short escapes, and every other
character that is not printable is written by its code point in hexadecimal: two digits below
256, four below 65536 and eight above.
-/

namespace Manuscript.Text

/-- The lowercase hexadecimal digits of `n`, padded with zeros to `width`. -/
def hexPadded (width n : Nat) : String :=
  let digits := Nat.toDigits 16 n
  String.ofList (List.replicate (width - digits.length) '0' ++ digits)

/-- The escape of one character inside a literal quoted by `q`. -/
def escapeChar (q c : Char) : String :=
  if c == q || c == '\\' then String.ofList ['\\', c]
  else if c == '\t' then "\\t"
  else if c == '\n' then "\\n"
  else if c == '\r' then "\\r"
  else if c.toNat < 0x20 || c.toNat == 0x7F then "\\x" ++ hexPadded 2 c.toNat
  else if c.toNat < 0x7F || isPrintable c then c.toString
  else if c.toNat ≤ 0xFF then "\\x" ++ hexPadded 2 c.toNat
  else if c.toNat ≤ 0xFFFF then "\\u" ++ hexPadded 4 c.toNat
  else "\\U" ++ hexPadded 8 c.toNat

/-- The quote character of the literal of `s`. -/
def quoteChar (s : String) : Char :=
  if s.contains '\'' && !s.contains '"' then '"' else '\''

/-- The literal of a text. -/
def quote (s : String) : String :=
  let q := quoteChar s
  q.toString ++ String.join (s.toList.map (escapeChar q)) ++ q.toString

end Manuscript.Text
