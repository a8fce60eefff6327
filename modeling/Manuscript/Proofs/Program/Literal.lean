import Manuscript.Text.Quoted
import Mathlib.Data.List.Forall2

/-!
# Reading the literals of a program

The programs the generator writes are made of Python literals: quoted strings with their escapes,
decimal integers, `True`, `None` and mappings `{k: v, ...}`. This file reads them back:

* `string` reads a literal in single or double quotes, with the escapes `\x`, `\u`, `\U` and the
  one-letter ones, and refuses a line break; `string_quote`: it reads `quote s` as `s`, whatever
  follows, so quoting loses nothing;
* `integer` reads an optional minus sign and decimal digits; `integer_toString`: it reads the
  decimal text of an integer back, when no digit follows;
* `literal` and `entries` read any of these, mappings nested to any depth, with fuel for the
  nesting. `Denotes code x` says that a text is read as the literal `x` with any fuel beyond its
  length; `denotes_quote`, `denotes_int`, `denotes_true`, `denotes_none` and, for mappings,
  `entries_text` with `EntriesRead.denotes` say it of each form a program writes.
-/

namespace Manuscript.Program.Read

/-! ## Hexadecimal digits -/

/-- The value of a hexadecimal digit, in either case. -/
def hexValue (c : Char) : Option Nat :=
  if '0' ≤ c ∧ c ≤ '9' then some (c.toNat - '0'.toNat)
  else if 'a' ≤ c ∧ c ≤ 'f' then some (c.toNat - 'a'.toNat + 10)
  else if 'A' ≤ c ∧ c ≤ 'F' then some (c.toNat - 'A'.toNat + 10)
  else none

/-- The number that hexadecimal digits spell. -/
def hexNumber (ds : List Char) : Option Nat :=
  ds.foldlM (fun acc d => (hexValue d).map (acc * 16 + ·)) 0

theorem hexValue_digitChar : ∀ d, d < 16 → hexValue (Nat.digitChar d) = some d := by
  decide

theorem foldlM_hexValue_replicate_zero (k : Nat) :
    (List.replicate k '0').foldlM (fun acc d => (hexValue d).map (acc * 16 + ·)) 0 = some 0 := by
  induction k with
  | zero => rfl
  | succ k ih => simpa [List.replicate_succ, hexValue] using ih

theorem hexNumber_toDigits (n : Nat) : hexNumber (Nat.toDigits 16 n) = some n := by
  induction n using Nat.strongRecOn with
  | ind n ih =>
    rw [Nat.toDigits_eq_if (by decide)]
    split
    · next hn => simp [hexNumber, hexValue_digitChar n hn]
    · next hn =>
      have hdiv := ih (n / 16) (by omega)
      unfold hexNumber at hdiv ⊢
      rw [List.foldlM_append, hdiv]
      simp [hexValue_digitChar (n % 16) (by omega)]
      omega

theorem hexPadded_spec {w n : Nat} (h : (Nat.toDigits 16 n).length ≤ w) :
    (Text.hexPadded w n).toList.length = w ∧ hexNumber (Text.hexPadded w n).toList = some n := by
  unfold Text.hexPadded
  rw [String.toList_ofList]
  refine ⟨by simp; omega, ?_⟩
  unfold hexNumber
  rw [List.foldlM_append, foldlM_hexValue_replicate_zero]
  exact hexNumber_toDigits n

/-! ## Strings -/

/-- Puts a character read in front of the rest of a literal read. -/
def prepend (c : Option Char) (rest : Option (List Char × List Char)) :
    Option (List Char × List Char) :=
  c.bind fun c => rest.map fun r => (c :: r.1, r.2)

/-- The character of a code point spelled in hexadecimal. -/
def hexChar (ds : List Char) : Option Char :=
  (hexNumber ds).bind fun n => if n.isValidChar then some (Char.ofNat n) else none

/-- The character of a one-letter escape. -/
def shortEscape : Char → Option Char
  | '\\' => some '\\'
  | '\'' => some '\''
  | '"' => some '"'
  | 't' => some '\t'
  | 'n' => some '\n'
  | 'r' => some '\r'
  | _ => none

/-- Reads the characters of a literal quoted by `q` up to its closing quote: the characters,
and what follows the quote. A line break cannot stand in a literal. -/
def stringBody (q : Char) : List Char → Option (List Char × List Char)
  | [] => none
  | '\\' :: 'x' :: a :: b :: cs => prepend (hexChar [a, b]) (stringBody q cs)
  | '\\' :: 'u' :: a :: b :: c :: d :: cs => prepend (hexChar [a, b, c, d]) (stringBody q cs)
  | '\\' :: 'U' :: a :: b :: c :: d :: e :: f :: g :: h :: cs =>
    prepend (hexChar [a, b, c, d, e, f, g, h]) (stringBody q cs)
  | '\\' :: e :: cs => prepend (shortEscape e) (stringBody q cs)
  | c :: cs =>
    if c = q then some ([], cs)
    else if c = '\n' ∨ c = '\r' ∨ c = '\\' then none
    else prepend (some c) (stringBody q cs)

theorem stringBody_raw {q c : Char} (hq : c ≠ q) (hn : c ≠ '\n') (hr : c ≠ '\r')
    (hb : c ≠ '\\') (rest : List Char) :
    stringBody q (c :: rest) = prepend (some c) (stringBody q rest) := by
  rw [stringBody]
  · rw [if_neg hq, if_neg (by simp [hn, hr, hb])]
  -- the escape equations apply only to a backslash
  all_goals
    intros
    contradiction

theorem stringBody_short {q e c : Char} (he : shortEscape e = some c) (hx : e ≠ 'x')
    (hu : e ≠ 'u') (hU : e ≠ 'U') (rest : List Char) :
    stringBody q ('\\' :: e :: rest) = prepend (some c) (stringBody q rest) := by
  rw [stringBody, he]
  all_goals
    intros
    simp_all

theorem stringBody_x {q : Char} {ds : List Char} (hds : ds.length = 2) (rest : List Char) :
    stringBody q ('\\' :: 'x' :: (ds ++ rest)) = prepend (hexChar ds) (stringBody q rest) := by
  rcases ds with _ | ⟨a, _ | ⟨b, _ | ⟨c, ds⟩⟩⟩ <;> simp at hds
  rfl

theorem stringBody_u {q : Char} {ds : List Char} (hds : ds.length = 4) (rest : List Char) :
    stringBody q ('\\' :: 'u' :: (ds ++ rest)) = prepend (hexChar ds) (stringBody q rest) := by
  rcases ds with _ | ⟨a, _ | ⟨b, _ | ⟨c, _ | ⟨d, _ | ⟨e, ds⟩⟩⟩⟩⟩ <;> simp at hds
  rfl

theorem stringBody_U {q : Char} {ds : List Char} (hds : ds.length = 8) (rest : List Char) :
    stringBody q ('\\' :: 'U' :: (ds ++ rest)) = prepend (hexChar ds) (stringBody q rest) := by
  rcases ds with _ | ⟨a, _ | ⟨b, _ | ⟨c, _ | ⟨d, _ | ⟨e, _ | ⟨f, _ | ⟨g, _ | ⟨h, _ | ⟨i, ds⟩⟩⟩⟩⟩⟩⟩⟩⟩ <;>
    simp at hds
  rfl

theorem hexChar_hexPadded {w : Nat} {c : Char} (h : (Nat.toDigits 16 c.toNat).length ≤ w) :
    hexChar (Text.hexPadded w c.toNat).toList = some c := by
  have hvalid : c.toNat.isValidChar := c.valid
  simp [hexChar, (hexPadded_spec h).2, hvalid]

theorem char_toNat_lt (c : Char) : c.toNat < 0x110000 := by
  have := c.valid
  simp only [UInt32.isValidChar, Nat.isValidChar] at this
  simp only [Char.toNat]
  omega

theorem stringBody_x_hexPadded {q c : Char} (hc : c.toNat < 0x100) (rest : List Char) :
    stringBody q (("\\x" ++ Text.hexPadded 2 c.toNat).toList ++ rest) =
      prepend (some c) (stringBody q rest) := by
  have hlen := (Nat.length_toDigits_le_iff (by decide) (by decide)).2 (show c.toNat < 16 ^ 2 by omega)
  rw [String.toList_append, List.append_assoc]
  rw [show ("\\x" : String).toList = ['\\', 'x'] by decide, List.cons_append, List.cons_append,
    List.nil_append, stringBody_x (hexPadded_spec hlen).1, hexChar_hexPadded hlen]

theorem stringBody_u_hexPadded {q c : Char} (hc : c.toNat < 0x10000) (rest : List Char) :
    stringBody q (("\\u" ++ Text.hexPadded 4 c.toNat).toList ++ rest) =
      prepend (some c) (stringBody q rest) := by
  have hlen := (Nat.length_toDigits_le_iff (by decide) (by decide)).2 (show c.toNat < 16 ^ 4 by omega)
  rw [String.toList_append, List.append_assoc]
  rw [show ("\\u" : String).toList = ['\\', 'u'] by decide, List.cons_append, List.cons_append,
    List.nil_append, stringBody_u (hexPadded_spec hlen).1, hexChar_hexPadded hlen]

theorem stringBody_U_hexPadded {q : Char} (c : Char) (rest : List Char) :
    stringBody q (("\\U" ++ Text.hexPadded 8 c.toNat).toList ++ rest) =
      prepend (some c) (stringBody q rest) := by
  have hlen := (Nat.length_toDigits_le_iff (by decide) (by decide)).2
    (show c.toNat < 16 ^ 8 by have := char_toNat_lt c; omega)
  rw [String.toList_append, List.append_assoc]
  rw [show ("\\U" : String).toList = ['\\', 'U'] by decide, List.cons_append, List.cons_append,
    List.nil_append, stringBody_U (hexPadded_spec hlen).1, hexChar_hexPadded hlen]

theorem stringBody_escapeChar {q : Char} (hq : q = '\'' ∨ q = '"') (c : Char)
    (rest : List Char) :
    stringBody q ((Text.escapeChar q c).toList ++ rest) = prepend (some c) (stringBody q rest) := by
  unfold Text.escapeChar
  split
  · -- the quote and the backslash stand behind a backslash
    next h =>
    have hc : c = q ∨ c = '\\' := by simpa using h
    simp only [String.toList_ofList, List.cons_append, List.nil_append]
    refine stringBody_short ?_ ?_ ?_ ?_ rest <;> rcases hc with rfl | rfl <;>
      rcases hq with rfl | rfl <;> decide
  split
  · next h =>
    rw [beq_iff_eq.1 h]
    exact stringBody_short rfl (by decide) (by decide) (by decide) rest
  split
  · next h =>
    rw [beq_iff_eq.1 h]
    exact stringBody_short rfl (by decide) (by decide) (by decide) rest
  split
  · next h =>
    rw [beq_iff_eq.1 h]
    exact stringBody_short rfl (by decide) (by decide) (by decide) rest
  split
  · -- control characters by two hexadecimal digits
    next h =>
    exact stringBody_x_hexPadded (by simp at h; omega) rest
  split
  · -- a printable character stands for itself
    next h₁ h₂ h₃ h₄ _ _ =>
    simp only [Bool.or_eq_true, beq_iff_eq, not_or] at h₁
    simp only [beq_iff_eq] at h₃ h₄
    rw [show c.toString.toList = [c] by simp, List.cons_append, List.nil_append]
    exact stringBody_raw h₁.1 h₃ h₄ h₁.2 rest
  split
  · next h => exact stringBody_x_hexPadded (by omega) rest
  split
  · next h => exact stringBody_u_hexPadded (by omega) rest
  · exact stringBody_U_hexPadded c rest

theorem stringBody_close {q : Char} (hq : q = '\'' ∨ q = '"') (rest : List Char) :
    stringBody q (q :: rest) = some ([], rest) := by
  rcases hq with rfl | rfl <;> rw [stringBody] <;> simp

theorem stringBody_escaped {q : Char} (hq : q = '\'' ∨ q = '"') (rest : List Char) :
    ∀ cs : List Char,
      stringBody q ((String.join (cs.map (Text.escapeChar q))).toList ++ q :: rest) = some (cs, rest)
  | [] => by simpa using stringBody_close hq rest
  | c :: cs => by
    rw [List.map_cons, String.join_cons, String.toList_append, List.append_assoc,
      stringBody_escapeChar hq, stringBody_escaped hq rest cs]
    rfl

/-- Reads a string literal in single or double quotes: its text, and what follows it. -/
def string : List Char → Option (String × List Char)
  | q :: cs =>
    if q = '\'' ∨ q = '"' then (stringBody q cs).map fun r => (String.ofList r.1, r.2) else none
  | [] => none

theorem quoteChar_cases (s : String) : Text.quoteChar s = '\'' ∨ Text.quoteChar s = '"' := by
  unfold Text.quoteChar
  split
  · exact Or.inr rfl
  · exact Or.inl rfl

theorem string_quote (s : String) (rest : List Char) :
    string ((Text.quote s).toList ++ rest) = some (s, rest) := by
  have hq := quoteChar_cases s
  simp only [Text.quote, String.toList_append, List.append_assoc]
  rw [show (Text.quoteChar s).toString.toList = [Text.quoteChar s] by simp, List.cons_append,
    List.nil_append, List.cons_append, List.nil_append, string, if_pos hq,
    stringBody_escaped hq rest]
  simp

theorem stringBody_plain {q : Char} (hq : q = '\'' ∨ q = '"') (rest : List Char) :
    ∀ cs : List Char, (∀ c ∈ cs, c ≠ q ∧ c ≠ '\n' ∧ c ≠ '\r' ∧ c ≠ '\\') →
      stringBody q (cs ++ q :: rest) = some (cs, rest)
  | [], _ => stringBody_close hq rest
  | c :: cs, h => by
    obtain ⟨h₁, h₂, h₃, h₄⟩ := h c List.mem_cons_self
    rw [List.cons_append, stringBody_raw h₁ h₂ h₃ h₄,
      stringBody_plain hq rest cs fun d hd => h d (List.mem_cons_of_mem _ hd)]
    rfl

/-- A text that can stand between the quotes `q` as it is. -/
def Plain (q : Char) (s : String) : Prop := ∀ c ∈ s.toList, c ≠ q ∧ c ≠ '\n' ∧ c ≠ '\r' ∧ c ≠ '\\'

-- decided along the text's characters, not by trying every character there is
instance (q : Char) : DecidablePred (Plain q) := fun s =>
  List.decidableBAll (fun c => c ≠ q ∧ c ≠ '\n' ∧ c ≠ '\r' ∧ c ≠ '\\') s.toList

theorem string_plain {q : Char} (hq : q = '\'' ∨ q = '"') {s : String} (hs : Plain q s)
    (rest : List Char) : string (q :: s.toList ++ q :: rest) = some (s, rest) := by
  rw [List.cons_append, string, if_pos hq, stringBody_plain hq rest _ hs]
  simp

/-! ## Numbers -/

/-- Whether a list does not go on with a digit. -/
def NoDigitNext (rest : List Char) : Prop := ∀ c ∈ rest.head?, c.isDigit = false

/-- Reads a natural number written in decimal digits. -/
def natural (cs : List Char) : Option (Nat × List Char) :=
  let ds := cs.takeWhile Char.isDigit
  if ds.isEmpty then none else some (Nat.ofDigitChars 10 ds 0, cs.dropWhile Char.isDigit)

/-- Reads an integer: a minus sign or none, then decimal digits. -/
def integer : List Char → Option (Int × List Char)
  | '-' :: cs => (natural cs).map fun r => (-(r.1 : Int), r.2)
  | cs => (natural cs).map fun r => ((r.1 : Int), r.2)

theorem natural_toDigits (n : Nat) {rest : List Char} (hrest : NoDigitNext rest) :
    natural (Nat.toDigits 10 n ++ rest) = some (n, rest) := by
  have hall : ∀ c ∈ Nat.toDigits 10 n, c.isDigit = true :=
    fun c hc => Nat.isDigit_of_mem_toDigits (by decide) (by decide) hc
  have htake : (Nat.toDigits 10 n ++ rest).takeWhile Char.isDigit = Nat.toDigits 10 n := by
    rw [List.takeWhile_append_of_pos hall]
    cases rest with
    | nil => simp
    | cons c rest => simp [hrest c rfl]
  have hdrop : (Nat.toDigits 10 n ++ rest).dropWhile Char.isDigit = rest := by
    rw [List.dropWhile_append_of_pos hall]
    cases rest with
    | nil => rfl
    | cons c rest => simp [hrest c rfl]
  simp [natural, htake, hdrop]

theorem integer_toString (n : Int) {rest : List Char} (hrest : NoDigitNext rest) :
    integer ((toString n).toList ++ rest) = some (n, rest) := by
  cases n with
  | ofNat m =>
    have hhead : ∀ t, Nat.toDigits 10 m ++ rest ≠ '-' :: t := by
      intro t h
      have hmem : '-' ∈ Nat.toDigits 10 m := by
        cases hd : Nat.toDigits 10 m with
        | nil => exact absurd hd Nat.toDigits_ne_nil
        | cons d ds => rw [hd] at h; simp at h; simp [h.1]
      exact absurd (Nat.isDigit_of_mem_toDigits (by decide) (by decide) hmem) (by decide)
    show integer ((Nat.repr m).toList ++ rest) = _
    rw [Nat.toList_repr, integer, natural_toDigits m hrest]
    · rfl
    · exact hhead
  | negSucc m =>
    show integer (("-" ++ Nat.repr (m + 1)).toList ++ rest) = _
    rw [String.toList_append, Nat.toList_repr]
    simp only [show ("-" : String).toList = ['-'] by decide, List.cons_append, List.nil_append,
      integer, natural_toDigits (m + 1) hrest, Option.map_some]
    rfl

theorem integer_of_not_digit {c : Char} (hm : c ≠ '-') (hd : c.isDigit = false) (cs : List Char) :
    integer (c :: cs) = none := by
  rw [integer]
  · simp [natural, hd]
  · intro t h
    exact hm (List.cons.inj h).1

/-! ## Literals -/

/-- Whether `c` separates tokens inside brackets: a blank, a tab, a form feed or a line break. -/
def isGap (c : Char) : Bool := c == ' ' || c == '\t' || c == '\x0c' || c == '\n' || c == '\r'

/-- Skips the gaps before a token. -/
def skipGap (cs : List Char) : List Char := cs.dropWhile isGap

/-- Reads one expected character. -/
def expect (c : Char) : List Char → Option (List Char)
  | d :: cs => if d = c then some cs else none
  | [] => none

/-- A literal that a program writes: a string, an integer, true, none, or a mapping with string
keys in the order written. -/
inductive Literal where
  | text (s : String)
  | int (n : Int)
  | true
  | none
  | dict (entries : List (String × Literal))
  deriving Inhabited, Repr

mutual
/-- Reads a literal: a string, an integer, `True`, `None` or a mapping. -/
def literal : Nat → List Char → Option (Literal × List Char)
  | 0, _ => none
  | fuel + 1, cs =>
    match string cs with
    | some (s, rest) => some (.text s, rest)
    | none =>
      match cs with
      | 'T' :: 'r' :: 'u' :: 'e' :: rest => some (.true, rest)
      | 'N' :: 'o' :: 'n' :: 'e' :: rest => some (.none, rest)
      | '{' :: rest => (entries fuel (skipGap rest)).map fun r => (.dict r.1, r.2)
      | _ => (integer cs).map fun r => (.int r.1, r.2)

/-- Reads the entries of a mapping up to and past its closing brace. -/
def entries : Nat → List Char → Option (List (String × Literal) × List Char)
  | 0, _ => none
  | _ + 1, '}' :: rest => some ([], rest)
  | fuel + 1, cs => do
    let (k, cs) ← string cs
    let cs ← expect ':' (skipGap cs)
    let (v, cs) ← literal fuel (skipGap cs)
    match skipGap cs with
    | ',' :: cs => (entries fuel (skipGap cs)).map fun r => ((k, v) :: r.1, r.2)
    | '}' :: cs => some ([(k, v)], cs)
    | _ => none
end

theorem string_head {cs : List Char} {r : String × List Char} (h : string cs = some r) :
    ∃ q t, cs = q :: t ∧ (q = '\'' ∨ q = '"') := by
  cases cs with
  | nil => cases h
  | cons q t =>
    refine ⟨q, t, rfl, ?_⟩
    by_contra hq
    rw [string, if_neg hq] at h
    cases h

theorem string_of_not_quote {c : Char} (hc : c ≠ '\'' ∧ c ≠ '"') (cs : List Char) :
    string (c :: cs) = none := by
  rw [string, if_neg]
  rintro (h | h)
  exacts [hc.1 h, hc.2 h]

theorem skipGap_of_not {c : Char} (hc : isGap c = false) (cs : List Char) :
    skipGap (c :: cs) = c :: cs := by
  simp [skipGap, hc]

theorem skipGap_gap {c : Char} (hc : isGap c = true) (cs : List Char) : skipGap (c :: cs) = skipGap cs := by
  simp [skipGap, hc]

/-- An expected character that is not a gap is read where it stands. -/
theorem expect_skipGap {c : Char} (hc : isGap c = false) (cs : List Char) :
    expect c (skipGap (c :: cs)) = some cs := by
  rw [skipGap_of_not hc, expect, if_pos rfl]

theorem literal_true (fuel : Nat) (rest : List Char) :
    literal (fuel + 1) ('T' :: 'r' :: 'u' :: 'e' :: rest) = some (.true, rest) := rfl

theorem literal_none (fuel : Nat) (rest : List Char) :
    literal (fuel + 1) ('N' :: 'o' :: 'n' :: 'e' :: rest) = some (.none, rest) := rfl

theorem literal_brace (fuel : Nat) (rest : List Char) :
    literal (fuel + 1) ('{' :: rest) = (entries fuel (skipGap rest)).map fun r => (.dict r.1, r.2) :=
  rfl

/-- A literal that starts with none of the characters that open a string, `True`, `None` or a
mapping is read as an integer. -/
theorem literal_fallback {c : Char} (hc : c ≠ '\'' ∧ c ≠ '"' ∧ c ≠ 'T' ∧ c ≠ 'N' ∧ c ≠ '{')
    (fuel : Nat) (cs : List Char) :
    literal (fuel + 1) (c :: cs) = (integer (c :: cs)).map fun r => (.int r.1, r.2) := by
  obtain ⟨h₁, h₂, hT, hN, hB⟩ := hc
  rw [literal]
  · rw [string_of_not_quote ⟨h₁, h₂⟩]
  · intro rest h
    exact hT (List.cons.inj h).1
  · intro rest h
    exact hN (List.cons.inj h).1
  · intro rest h
    exact hB (List.cons.inj h).1

theorem literal_number {c : Char} (hc : c = '-' ∨ c.isDigit) (fuel : Nat) (cs : List Char) :
    literal (fuel + 1) (c :: cs) = (integer (c :: cs)).map fun r => (.int r.1, r.2) := by
  refine literal_fallback ?_ fuel cs
  rcases hc with rfl | hc
  · decide
  · refine ⟨?_, ?_, ?_, ?_, ?_⟩ <;> rintro rfl <;> simp at hc

theorem literal_gap {c : Char} (hc : isGap c = true) (fuel : Nat) (cs : List Char) :
    literal fuel (c :: cs) = none := by
  have hmem : (((c = ' ' ∨ c = '\t') ∨ c = '\x0c') ∨ c = '\n') ∨ c = '\r' := by
    simpa [isGap] using hc
  cases fuel with
  | zero => rfl
  | succ f =>
    have hother : (c ≠ '\'' ∧ c ≠ '"' ∧ c ≠ 'T' ∧ c ≠ 'N' ∧ c ≠ '{') ∧ c ≠ '-' ∧ c.isDigit = false := by
      rcases hmem with (((rfl | rfl) | rfl) | rfl) | rfl <;> decide
    rw [literal_fallback hother.1, integer_of_not_digit hother.2.1 hother.2.2]
    rfl

theorem toString_int_head (n : Int) : ∃ c t, (toString n).toList = c :: t ∧ (c = '-' ∨ c.isDigit) := by
  cases n with
  | ofNat m =>
    show ∃ c t, (Nat.repr m).toList = c :: t ∧ _
    rw [Nat.toList_repr]
    cases hd : Nat.toDigits 10 m with
    | nil => exact absurd hd Nat.toDigits_ne_nil
    | cons c t =>
      have hc : c ∈ Nat.toDigits 10 m := by simp [hd]
      exact ⟨c, t, rfl, Or.inr (Nat.isDigit_of_mem_toDigits (by decide) (by decide) hc)⟩
  | negSucc m => exact ⟨'-', (Nat.repr (m + 1)).toList, by simp [Int.repr], Or.inl rfl⟩

/-- The decimal text of an integer holds digits and a minus sign only. -/
theorem toString_int_chars (n : Int) : ∀ c ∈ (toString n).toList, c = '-' ∨ c.isDigit := by
  intro c hc
  cases n with
  | ofNat m =>
    change c ∈ (Nat.repr m).toList at hc
    rw [Nat.toList_repr] at hc
    exact .inr (Nat.isDigit_of_mem_toDigits (by decide) (by decide) hc)
  | negSucc m =>
    change c ∈ ("-" ++ Nat.repr (m + 1)).toList at hc
    rw [String.toList_append, Nat.toList_repr, List.mem_append] at hc
    rcases hc with hc | hc
    · exact .inl (by simpa using hc)
    · exact .inr (Nat.isDigit_of_mem_toDigits (by decide) (by decide) hc)

/-! ## Literals by their text -/

/-- The text `code` is read as the string `s`, whatever follows. -/
def Names (code s : String) : Prop := ∀ rest, string (code.toList ++ rest) = some (s, rest)

/-- The text `code` is read as the literal `x`, whatever follows that does not continue a
number, with fuel beyond the length of what is read. -/
def Denotes (code : String) (x : Literal) : Prop :=
  ∀ fuel rest, (code.toList ++ rest).length < fuel → NoDigitNext rest →
    literal fuel (code.toList ++ rest) = some (x, rest)

theorem names_quote (s : String) : Names (Text.quote s) s := string_quote s

theorem denotes_quote (s : String) : Denotes (Text.quote s) (.text s) := by
  intro fuel rest hlen _
  obtain ⟨f, rfl⟩ := Nat.exists_eq_add_one_of_ne_zero (show fuel ≠ 0 by omega)
  rw [literal.eq_def]
  dsimp only
  rw [string_quote]

theorem denotes_int (n : Int) : Denotes (toString n) (.int n) := by
  intro fuel rest hlen hrest
  obtain ⟨f, rfl⟩ := Nat.exists_eq_add_one_of_ne_zero (show fuel ≠ 0 by omega)
  obtain ⟨c, t, ht, hc⟩ := toString_int_head n
  have hread := integer_toString n hrest
  rw [ht, List.cons_append] at hread ⊢
  rw [literal_number hc, hread]
  rfl

theorem denotes_true : Denotes "True" .true := by
  intro fuel rest hlen _
  obtain ⟨f, rfl⟩ := Nat.exists_eq_add_one_of_ne_zero (show fuel ≠ 0 by omega)
  exact literal_true f rest

theorem denotes_none : Denotes "None" .none := by
  intro fuel rest hlen _
  obtain ⟨f, rfl⟩ := Nat.exists_eq_add_one_of_ne_zero (show fuel ≠ 0 by omega)
  exact literal_none f rest

/-- A literal's text starts with no gap. -/
theorem Denotes.skipGap {code : String} {x : Literal} (h : Denotes code x) (rest : List Char) :
    skipGap (code.toList ++ rest) = code.toList ++ rest := by
  have hread := h (code.toList.length + 1) [] (by simp) (by simp [NoDigitNext])
  cases hcs : code.toList with
  | nil =>
    rw [hcs] at hread
    cases hread
  | cons c t =>
    have hc : isGap c = false := by
      cases hg : isGap c
      · rfl
      · rw [hcs, List.cons_append, literal_gap hg] at hread
        cases hread
    rw [List.cons_append, skipGap_of_not hc]

/-- One entry of a mapping, `key: value`, and what the reader does after it. -/
theorem entries_entry {kc vc k : String} {v : Literal} (hk : Names kc k) (hv : Denotes vc v)
    {fuel : Nat} {after : List Char}
    (hlen : (kc.toList ++ ':' :: ' ' :: (vc.toList ++ after)).length < fuel + 1)
    (hafter : NoDigitNext after) :
    entries (fuel + 1) (kc.toList ++ ':' :: ' ' :: (vc.toList ++ after)) =
      match skipGap after with
      | ',' :: cs => (entries fuel (skipGap cs)).map fun r => ((k, v) :: r.1, r.2)
      | '}' :: cs => some ([(k, v)], cs)
      | _ => none := by
  obtain ⟨q, t, heq, hq⟩ := string_head (hk (':' :: ' ' :: (vc.toList ++ after)))
  have hkey : 0 < kc.toList.length := by
    cases hkc : kc.toList with
    | nil => rw [hkc] at heq; simp at heq; exact absurd heq.1 (by rcases hq with rfl | rfl <;> decide)
    | cons _ _ => simp
  have hvlen : (vc.toList ++ after).length < fuel := by
    simp only [List.length_append, List.length_cons] at hlen ⊢
    omega
  rw [entries]
  · rw [Option.bind_eq_bind, hk (':' :: ' ' :: (vc.toList ++ after)), Option.bind_some]
    dsimp only
    rw [expect_skipGap (c := ':') (by decide)]
    simp only [Option.bind_eq_bind, Option.bind_some]
    rw [skipGap_gap (c := ' ') (by decide), hv.skipGap, hv fuel after hvlen hafter]
    rfl
  · intro rest h
    rw [heq] at h
    obtain ⟨rfl, -⟩ := List.cons.inj h
    rcases hq with h | h <;> exact absurd h (by decide)

/-- A string's text starts with its quote, so with no gap. -/
theorem Names.skipGap {code s : String} (h : Names code s) (rest : List Char) :
    skipGap (code.toList ++ rest) = code.toList ++ rest := by
  obtain ⟨q, t, heq, hq⟩ := string_head (h rest)
  rw [heq, skipGap_of_not]
  rcases hq with rfl | rfl <;> rfl

/-- The text `body` of a mapping, up to its closing brace, is read as the entries `xs`, whatever
follows the brace, with fuel beyond its length. -/
def EntriesRead (body : String) (xs : List (String × Literal)) : Prop :=
  ∀ fuel rest, (body.toList ++ '}' :: rest).length < fuel →
    entries fuel (skipGap (body.toList ++ '}' :: rest)) = some (xs, rest)

/-- The entries of a mapping, each `key: value`, apart by `, ` and closed by a brace. -/
theorem entries_text {es : List (String × String)} {xs : List (String × Literal)}
    (h : List.Forall₂ (fun e x => Names e.1 x.1 ∧ Denotes e.2 x.2) es xs) :
    EntriesRead (", ".intercalate (es.map fun e => e.1 ++ ": " ++ e.2)) xs := by
  induction h with
  | nil =>
    intro fuel rest hlen
    obtain ⟨f, rfl⟩ := Nat.exists_eq_add_one_of_ne_zero (show fuel ≠ 0 by simp at hlen; omega)
    simp only [List.map_nil, String.intercalate_nil, String.toList_empty, List.nil_append]
    rw [skipGap_of_not (by decide)]
    rfl
  | @cons e x es xs hex htail ih =>
    intro fuel rest hlen
    obtain ⟨f, rfl⟩ := Nat.exists_eq_add_one_of_ne_zero (show fuel ≠ 0 by omega)
    cases htail with
    | nil =>
      have htext : (", ".intercalate ([e].map fun e => e.1 ++ ": " ++ e.2)).toList ++ '}' :: rest =
          e.1.toList ++ ':' :: ' ' :: (e.2.toList ++ '}' :: rest) := by simp
      rw [htext] at hlen ⊢
      rw [hex.1.skipGap, entries_entry hex.1 hex.2 hlen (by simp [NoDigitNext]),
        skipGap_of_not (by decide)]
      rfl
    | @cons e' x' es' xs' hex' htail' =>
      have htext : (", ".intercalate ((e :: e' :: es').map fun e => e.1 ++ ": " ++ e.2)).toList ++
          '}' :: rest = e.1.toList ++ ':' :: ' ' :: (e.2.toList ++ ',' :: ' ' ::
            ((", ".intercalate ((e' :: es').map fun e => e.1 ++ ": " ++ e.2)).toList ++ '}' :: rest)) := by
        simp [String.intercalate_cons_cons]
      rw [htext] at hlen ⊢
      rw [hex.1.skipGap, entries_entry hex.1 hex.2 hlen (by simp [NoDigitNext]),
        skipGap_of_not (by decide)]
      show Option.map _ (entries f (skipGap (' ' :: _))) = _
      rw [skipGap_gap (by decide), ih f rest (by simp only [List.length_append, List.length_cons] at hlen ⊢; omega)]
      rfl

/-- A mapping as programs write it denotes the mapping of its entries, in the order written. -/
theorem EntriesRead.denotes {body : String} {xs : List (String × Literal)} (h : EntriesRead body xs) :
    Denotes ("\x7b" ++ body ++ "\x7d") (.dict xs) := by
  intro fuel rest hlen _
  obtain ⟨f, rfl⟩ := Nat.exists_eq_add_one_of_ne_zero (show fuel ≠ 0 by omega)
  have htext : ("\x7b" ++ body ++ "\x7d").toList ++ rest = '{' :: (body.toList ++ '}' :: rest) := by
    simp
  rw [htext] at hlen ⊢
  rw [literal_brace, h f rest (by simp only [List.length_cons] at hlen; omega)]
  rfl

end Manuscript.Program.Read
