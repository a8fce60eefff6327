import Manuscript.Data.Json
import Manuscript.Proofs.Program.Literal

/-!
# Reading JSON string literals back

With `asciiOnly` set, `Json.quoteText` writes text in ASCII. Quotes, backslashes and control
characters stand behind a backslash. Any other character outside ASCII is written as `\uXXXX`,
and one outside the basic plane as a surrogate pair of such escapes. `Json.unescapeHead?` reads
one character of such a text, and `unescapeHead?_escapeChar` says that it reads back every
character written.

Main statement: `quoteText_prefix_inj`. A quoted text can be read off the front of a run of
characters whatever follows it, so two texts quote alike only if they are equal.
-/

namespace Manuscript.Json

open Program.Read (hexNumber hexPadded_spec char_toNat_lt)

/-- The code of an escape `\uXXXX` at the head of a text, and what follows it. -/
def unicodeEscape? : List Char → Option (Nat × List Char)
  | '\\' :: 'u' :: a :: b :: c :: d :: rest => (hexNumber [a, b, c, d]).map (·, rest)
  | _ => none

/-- Reads one character at the head of the body of a JSON string literal: a surrogate pair of
escapes `\uXXXX`, one such escape, a one-letter escape, or a character that stands for itself. -/
def unescapeHead? (cs : List Char) : Option (Char × List Char) :=
  match unicodeEscape? cs with
  | some (u, rest) =>
    match unicodeEscape? rest with
    | some (l, rest') =>
      if isHighSurrogate u && isLowSurrogate l then
        some (Char.ofNat (0x10000 + (u - 0xD800) * 0x400 + (l - 0xDC00)), rest')
      else some (Char.ofNat u, rest)
    | none => some (Char.ofNat u, rest)
  | none =>
    match cs with
    | '\\' :: e :: rest => (escapeOf? e).map (·, rest)
    | c :: rest => some (c, rest)
    | [] => none

theorem unicodeEscape?_hexPadded {n : Nat} (hn : n < 0x10000) (rest : List Char) :
    unicodeEscape? (("\\u" ++ Text.hexPadded 4 n).toList ++ rest) = some (n, rest) := by
  have hlen := (Nat.length_toDigits_le_iff (by decide) (by decide)).2 (show n < 16 ^ 4 by omega)
  obtain ⟨hfour, hread⟩ := hexPadded_spec hlen
  rw [String.toList_append, show ("\\u" : String).toList = ['\\', 'u'] by decide]
  generalize (Text.hexPadded 4 n).toList = ds at hfour hread
  rcases ds with _ | ⟨a, _ | ⟨b, _ | ⟨c, _ | ⟨d, _ | ⟨e, ds⟩⟩⟩⟩⟩ <;> simp at hfour
  simp [unicodeEscape?, hread]

theorem unescapeHead?_single {cs rest : List Char} {u : Nat}
    (h : unicodeEscape? cs = some (u, rest)) (hu : isHighSurrogate u = false) :
    unescapeHead? cs = some (Char.ofNat u, rest) := by
  unfold unescapeHead?
  simp only [h]
  split <;> simp [hu]

theorem unescapeHead?_pair {cs rest rest' : List Char} {u l : Nat}
    (hhigh : unicodeEscape? cs = some (u, rest)) (hlow : unicodeEscape? rest = some (l, rest'))
    (hu : isHighSurrogate u = true) (hl : isLowSurrogate l = true) :
    unescapeHead? cs = some (Char.ofNat (0x10000 + (u - 0xD800) * 0x400 + (l - 0xDC00)), rest') := by
  simp [unescapeHead?, hhigh, hlow, hu, hl]

theorem unescapeHead?_short {e c : Char} (he : escapeOf? e = some c) (hu : e ≠ 'u')
    (rest : List Char) : unescapeHead? ('\\' :: e :: rest) = some (c, rest) := by
  have hnone : unicodeEscape? ('\\' :: e :: rest) = none := by
    unfold unicodeEscape?
    split <;> simp_all
  unfold unescapeHead?
  rw [hnone]
  simp [he]

theorem unescapeHead?_plain {c : Char} (hc : c ≠ '\\') (rest : List Char) :
    unescapeHead? (c :: rest) = some (c, rest) := by
  have hnone : unicodeEscape? (c :: rest) = none := by
    unfold unicodeEscape?
    split <;> simp_all
  unfold unescapeHead?
  rw [hnone]
  split <;> simp_all

/-- A character outside the basic plane is written as a high and a low surrogate, which read
back as the character. -/
theorem unescapeHead?_surrogates {c : Char} (hc : 0x10000 ≤ c.toNat) (rest : List Char) :
    unescapeHead? ((("\\u" ++ Text.hexPadded 4 (0xD800 + (c.toNat - 0x10000) / 0x400)) ++
      ("\\u" ++ Text.hexPadded 4 (0xDC00 + (c.toNat - 0x10000) % 0x400))).toList ++ rest) =
      some (c, rest) := by
  have hlt := char_toNat_lt c
  rw [String.toList_append, List.append_assoc,
    unescapeHead?_pair (unicodeEscape?_hexPadded (by omega) _) (unicodeEscape?_hexPadded (by omega) _)
      (by simp [isHighSurrogate]; omega) (by simp [isLowSurrogate]; omega)]
  have hcode : 0x10000 + (0xD800 + (c.toNat - 0x10000) / 0x400 - 0xD800) * 0x400 +
      (0xDC00 + (c.toNat - 0x10000) % 0x400 - 0xDC00) = c.toNat := by omega
  rw [hcode, Char.ofNat_toNat]

/-- Every character that `escapeChar true` writes is read back, whatever follows it. -/
theorem unescapeHead?_escapeChar (c : Char) (rest : List Char) :
    unescapeHead? ((escapeChar true c).toList ++ rest) = some (c, rest) := by
  have hvalid := c.valid
  simp only [UInt32.isValidChar, Nat.isValidChar] at hvalid
  change c.toNat < 0xD800 ∨ 0xDFFF < c.toNat ∧ c.toNat < 0x110000 at hvalid
  have hsingle : c.toNat < 0x10000 → isHighSurrogate c.toNat = false →
      unescapeHead? (("\\u" ++ Text.hexPadded 4 c.toNat).toList ++ rest) = some (c, rest) :=
    fun hlt hhigh => by
      rw [unescapeHead?_single (unicodeEscape?_hexPadded hlt rest) hhigh, Char.ofNat_toNat]
  unfold escapeChar
  dsimp only
  by_cases hq : (c == '"') = true
  · rw [if_pos hq, beq_iff_eq.1 hq]; exact unescapeHead?_short rfl (by decide) rest
  rw [if_neg hq]
  by_cases hb : (c == '\\') = true
  · rw [if_pos hb, beq_iff_eq.1 hb]; exact unescapeHead?_short rfl (by decide) rest
  rw [if_neg hb]
  by_cases hn : (c == '\n') = true
  · rw [if_pos hn, beq_iff_eq.1 hn]; exact unescapeHead?_short rfl (by decide) rest
  rw [if_neg hn]
  by_cases hr : (c == '\r') = true
  · rw [if_pos hr, beq_iff_eq.1 hr]; exact unescapeHead?_short rfl (by decide) rest
  rw [if_neg hr]
  by_cases ht : (c == '\t') = true
  · rw [if_pos ht, beq_iff_eq.1 ht]; exact unescapeHead?_short rfl (by decide) rest
  rw [if_neg ht]
  by_cases hbs : (c == '\x08') = true
  · rw [if_pos hbs, beq_iff_eq.1 hbs]; exact unescapeHead?_short rfl (by decide) rest
  rw [if_neg hbs]
  by_cases hf : (c == '\x0c') = true
  · rw [if_pos hf, beq_iff_eq.1 hf]; exact unescapeHead?_short rfl (by decide) rest
  rw [if_neg hf]
  by_cases hctl : c.toNat < 0x20
  · rw [if_pos hctl]; exact hsingle (by omega) (by simp [isHighSurrogate]; omega)
  rw [if_neg hctl]
  by_cases hwide : (true && decide (c.toNat > 0x7E)) = true
  · rw [if_pos hwide]
    by_cases hplane : c.toNat ≥ 0x10000
    · rw [if_pos hplane]; exact unescapeHead?_surrogates hplane rest
    · rw [if_neg hplane]; exact hsingle (by omega) (by simp [isHighSurrogate]; omega)
  rw [if_neg hwide, show c.toString.toList = [c] by simp, List.singleton_append]
  exact unescapeHead?_plain (by simpa using hb) rest

/-- A written character never starts with a quote, the end of a string literal: the quote
itself is escaped. -/
theorem escapeChar_append_ne_quote (c : Char) (rest r : List Char) :
    (escapeChar true c).toList ++ rest ≠ '"' :: r := by
  intro h
  have hread := congrArg unescapeHead? h
  rw [unescapeHead?_escapeChar, unescapeHead?_plain (by decide)] at hread
  obtain ⟨rfl, -⟩ := Prod.mk.inj (Option.some.inj hread)
  rw [show (escapeChar true '"').toList = ['\\', '"'] by decide] at h
  simp at h

/-- The escaped characters of a text, up to the closing quote, are read off the front of a run
of characters whatever follows the quote. -/
theorem escaped_prefix_inj {s s' r r' : List Char}
    (h : s.flatMap (fun c => (escapeChar true c).toList) ++ '"' :: r =
      s'.flatMap (fun c => (escapeChar true c).toList) ++ '"' :: r') : s = s' ∧ r = r' := by
  induction s generalizing s' with
  | nil =>
    cases s' with
    | nil => simpa using h
    | cons c _ =>
      rw [List.flatMap_cons, List.append_assoc] at h
      exact absurd h.symm (escapeChar_append_ne_quote c _ _)
  | cons c s ih =>
    cases s' with
    | nil =>
      rw [List.flatMap_cons, List.append_assoc] at h
      exact absurd h (escapeChar_append_ne_quote c _ _)
    | cons c' s' =>
      rw [List.flatMap_cons, List.flatMap_cons, List.append_assoc, List.append_assoc] at h
      -- the first characters are read back alike, and so is what follows them
      have hread := congrArg unescapeHead? h
      rw [unescapeHead?_escapeChar, unescapeHead?_escapeChar] at hread
      obtain ⟨rfl, hrest⟩ := Prod.mk.inj (Option.some.inj hread)
      obtain ⟨rfl, rfl⟩ := ih hrest
      exact ⟨rfl, rfl⟩

theorem toList_quoteText (asciiOnly : Bool) (s : String) :
    (quoteText asciiOnly s).toList =
      '"' :: s.toList.flatMap (fun c => (escapeChar asciiOnly c).toList) ++ ['"'] := by
  simp [quoteText, String.toList_join, List.flatMap_map]

/-- A quoted text is read off the front of a run of characters whatever follows it. -/
theorem quoteText_prefix_inj {s s' : String} {r r' : List Char}
    (h : (quoteText true s).toList ++ r = (quoteText true s').toList ++ r') : s = s' ∧ r = r' := by
  simp only [toList_quoteText, List.cons_append, List.append_assoc, List.cons.injEq,
    true_and] at h
  obtain ⟨hs, rfl⟩ := escaped_prefix_inj h
  exact ⟨String.toList_inj.1 hs, rfl⟩

end Manuscript.Json
