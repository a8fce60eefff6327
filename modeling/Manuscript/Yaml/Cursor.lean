import Manuscript.Yaml.Mark

/-!
# Reading position in YAML text

A `Cursor` walks the characters of a text followed by a NUL, which stands for the end. It knows
the line and the column it stands at: a line feed, NEL, a line or paragraph separator, or a
carriage return not followed by a line feed starts a new line, and a byte order mark takes no
column.

Before it is read, a text is checked for characters YAML does not accept (`acceptable`).
-/

namespace Manuscript.Yaml

/-- Whether YAML text may hold `c`: tab, line feed, carriage return, printable ASCII, NEL, and
the rest of Unicode but for the C1 controls, surrogates and the two noncharacters U+FFFE and
U+FFFF. -/
def isAcceptable (c : Char) : Bool :=
  let n := c.toNat
  n == 0x09 || n == 0x0A || n == 0x0D || (0x20 ≤ n && n ≤ 0x7E) || n == 0x85 ||
    (0xA0 ≤ n && n ≤ 0xD7FF) || (0xE000 ≤ n && n ≤ 0xFFFD) || (0x10000 ≤ n && n ≤ 0x10FFFF)

/-- The first character of a text that YAML does not accept, with its index. -/
def acceptable (text : String) : Except LoadError Unit :=
  match (text.toList.zipIdx).find? (fun (c, _) => !isAcceptable c) with
  | some (c, i) => .error (.unacceptable c.toNat i)
  | none => .ok ()

/-- Whether `c` breaks a line. -/
def isBreak (c : Char) : Bool :=
  c == '\r' || c == '\n' || c == '\x85' || c == '\u2028' || c == '\u2029'

/-- Whether `c` breaks a line or ends the text. -/
def isBreakOrEnd (c : Char) : Bool := c == '\x00' || isBreak c

/-- Whether `c` is blank, breaks a line or ends the text. -/
def isBlankOrEnd (c : Char) : Bool := c == ' ' || c == '\t' || isBreakOrEnd c

/-- Whether `c` is an ASCII letter, digit, hyphen or underscore: a character of anchors, tag
handles and directive names. -/
def isWordChar (c : Char) : Bool :=
  ('0' ≤ c && c ≤ '9') || ('A' ≤ c && c ≤ 'Z') || ('a' ≤ c && c ≤ 'z') || c == '-' || c == '_'

/-- Whether `c` is a hexadecimal digit. -/
def isHexDigit (c : Char) : Bool :=
  ('0' ≤ c && c ≤ '9') || ('A' ≤ c && c ≤ 'F') || ('a' ≤ c && c ≤ 'f')

/-- A position in a text that ends with a NUL. -/
structure Cursor where
  buffer : Array Char
  pointer : Nat
  line : Nat
  column : Nat
  deriving Inhabited

namespace Cursor

/-- The start of a text. -/
def ofText (text : String) : Cursor := ⟨(text.toList ++ ['\x00']).toArray, 0, 0, 0⟩

/-- The character `k` places ahead; NUL past the end. -/
def peekAt (c : Cursor) (k : Nat) : Char := c.buffer.getD (c.pointer + k) '\x00'

/-- The character under the cursor. -/
def peek (c : Cursor) : Char := c.peekAt 0

/-- The next `n` characters, fewer at the end. -/
def ahead (c : Cursor) (n : Nat) : String :=
  String.ofList (c.buffer.extract c.pointer (c.pointer + n)).toList

/-- The mark of the cursor. -/
def mark (c : Cursor) : Mark := ⟨c.pointer, c.line, c.column⟩

/-- The number of characters left, the final NUL included. -/
def left (c : Cursor) : Nat := c.buffer.size - c.pointer

/-- Steps over one character. -/
def step (c : Cursor) : Cursor :=
  match c.buffer[c.pointer]? with
  | none => c
  | some ch =>
    let p := c.pointer + 1
    if ch == '\n' || ch == '\x85' || ch == '\u2028' || ch == '\u2029' ||
        (ch == '\r' && c.buffer.getD p '\x00' != '\n') then
      { c with pointer := p, line := c.line + 1, column := 0 }
    else if ch != '\uFEFF' then { c with pointer := p, column := c.column + 1 }
    else { c with pointer := p }

/-- Steps over `n` characters. -/
def forward (c : Cursor) : Nat → Cursor
  | 0 => c
  | n + 1 => c.step.forward n

theorem step_pointer (c : Cursor) (h : c.pointer < c.buffer.size) :
    c.step.pointer = c.pointer + 1 := by
  unfold step
  rw [Array.getElem?_eq_getElem h]
  dsimp only
  split
  · rfl
  · split <;> rfl

theorem step_buffer (c : Cursor) : c.step.buffer = c.buffer := by
  unfold step
  split
  · rfl
  · dsimp only
    split
    · rfl
    · split <;> rfl

/-- Steps over characters while the cursor satisfies `p`. -/
def advanceWhile (p : Cursor → Bool) (c : Cursor) : Cursor :=
  if _h : c.pointer < c.buffer.size ∧ p c then advanceWhile p c.step else c
termination_by c.left
decreasing_by
  unfold left
  rw [step_buffer, step_pointer c _h.1]
  omega

/-- Steps over characters while they satisfy `p`. -/
def skipWhile (p : Char → Bool) : Cursor → Cursor := advanceWhile fun c => p c.peek

/-- Steps over spaces while the column is below `indent`. -/
def spacesTo (indent : Nat) : Cursor → Cursor :=
  advanceWhile fun c => c.column < indent && c.peek == ' '

/-- The number of characters from the cursor on that satisfy `p`. -/
def countWhile (p : Char → Bool) (c : Cursor) : Nat :=
  let rec go (k : Nat) : Nat :=
    if h : c.pointer + k < c.buffer.size then
      if p c.buffer[c.pointer + k] then go (k + 1) else k
    else k
  termination_by c.buffer.size - (c.pointer + k)
  go 0

/-- Steps over the spaces under the cursor. -/
def skipSpaces (c : Cursor) : Cursor := c.skipWhile (· == ' ')

/-- Steps over the rest of a line, up to its break. -/
def skipToBreak (c : Cursor) : Cursor := c.skipWhile (fun ch => !isBreakOrEnd ch)

/-- Reads one line break: CR LF, CR, LF and NEL read as a line feed, a line or paragraph
separator as itself. Answers the empty text where no break stands. -/
def lineBreak (c : Cursor) : String × Cursor :=
  let ch := c.peek
  if ch == '\r' || ch == '\n' || ch == '\x85' then
    if c.ahead 2 == "\r\n" then ("\n", c.forward 2) else ("\n", c.step)
  else if ch == '\u2028' || ch == '\u2029' then (ch.toString, c.step)
  else ("", c)

/-- Whether a document marker `marker` (`---` or `...`) starts at the cursor, followed by a
blank, a break or the end. -/
def atMarker (c : Cursor) (marker : String) : Bool :=
  c.ahead 3 == marker && isBlankOrEnd (c.peekAt 3)

end Cursor

end Manuscript.Yaml
