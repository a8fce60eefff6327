import Manuscript.Document.Reader

/-!
# Tags written and read back

A component tag written from its parts is read back into exactly those parts. A tag is written
as `<`, its name, each attribute after a single space, and `>` or ` />` (`WrittenTag.text`); an
attribute is written as its name alone, or as its name, `=` and a value between double quotes,
between single quotes, or between braces as an expression (`WrittenAttribute.text`). The names
follow the name patterns of tags and attributes and each value holds none of the characters its
form excludes; the structures carry these conditions, so every written tag is one that may be
read.

Reading the written tag as a whole tag gives its name, its attributes in order, with a bare
attribute read as a flag, a quoted value read verbatim and a braced value read verbatim as an
expression, and whether it closes itself (`written_tag_reads_back`).

The proof reads the character array from an index: each reading step is stated by what the
array holds from that index on (`skipWhile_of_drop`, `sliceText_of_drop`). Attributes are read
one step per attribute (`attributesOf_go_written`), and a run of them by induction on the list
(`attributesOf_go_spaced`). The attribute text of a tag ends before its last blanks, which needs
that no name character is blank (`isNameChar_not_blank`): the word characters of the Unicode
standard hold no white space.
-/

namespace Manuscript.Document

open Manuscript.Text Manuscript.Markdown

/-! ### Names -/

/-- A component name: an ASCII letter, then name characters. -/
def isTagName : List Char → Bool
  | [] => false
  | c :: cs => isAsciiLetter c && cs.all isNameChar

/-- An attribute name: an ASCII letter, `_` or `:`, then name characters. -/
def isAttributeName : List Char → Bool
  | [] => false
  | c :: cs => isAttributeStart c && cs.all isNameChar

/-- The code points of the blanks beyond ASCII. -/
def wideBlanks : List Nat :=
  [0x85, 0xA0, 0x1680] ++ List.range' 0x2000 11 ++ [0x2028, 0x2029, 0x202F, 0x205F, 0x3000]

theorem blank_code {c : Char} (h : isBlank c = true) : c.toNat < 128 ∨ c.toNat ∈ wideBlanks := by
  simp only [isBlank, Bool.or_eq_true, Bool.and_eq_true, decide_eq_true_eq, beq_iff_eq] at h
  simp only [wideBlanks, List.mem_append, List.mem_cons, List.mem_range'_1, List.not_mem_nil]
  omega

/-- A class of characters holds no blank when none of its ASCII members is blank and it holds
none of the blanks beyond ASCII. -/
theorem not_blank_of_class {p : Char → Bool}
    (hascii : ∀ n < 128, p (Char.ofNat n) = true → isBlank (Char.ofNat n) = false)
    (hwide : ∀ n ∈ wideBlanks, p (Char.ofNat n) = false) {c : Char} (h : p c = true) :
    isBlank c = false := by
  cases hb : isBlank c with
  | false => rfl
  | true =>
    rcases blank_code hb with hlt | hw
    · rw [← Char.ofNat_toNat c] at h hb
      rw [hascii _ hlt h] at hb
      cases hb
    · rw [← Char.ofNat_toNat c, hwide _ hw] at h
      cases h

/-- No name character is blank. -/
theorem isNameChar_not_blank {c : Char} (h : isNameChar c = true) : isBlank c = false :=
  not_blank_of_class (by decide) (by decide +kernel) h

theorem isAttributeStart_not_blank {c : Char} (h : isAttributeStart c = true) :
    isBlank c = false :=
  not_blank_of_class (by decide) (by decide) h

/-- A class of characters that holds neither angle bracket holds only characters other than
them. -/
theorem angle_free_of_class {p : Char → Bool} (hl : p '<' = false) (hr : p '>' = false) {c : Char}
    (h : p c = true) : (c != '<' && c != '>') = true := by
  simp only [Bool.and_eq_true, bne_iff_ne, ne_eq]
  refine ⟨fun e => ?_, fun e => ?_⟩
  · rw [e, hl] at h
    cases h
  · rw [e, hr] at h
    cases h

/-! ### Reading a character array from an index -/

section Reading

variable {s : Array Char} {k : Nat}

theorem getElem?_eq_head?_drop (s : Array Char) (k : Nat) :
    s[k]? = (s.toList.drop k).head? := by
  rw [← Array.getElem?_toList, ← List.head?_drop]

theorem getElem?_of_drop {c : Char} {rest : List Char} (h : s.toList.drop k = c :: rest) :
    s[k]? = some c := by
  rw [getElem?_eq_head?_drop, h]
  rfl

theorem getElem?_add_of_drop {xs : List Char} (h : s.toList.drop k = xs) (j : Nat) :
    s[k + j]? = xs[j]? := by
  rw [← h, List.getElem?_drop, Array.getElem?_toList]

theorem drop_of_drop {xs rest : List Char} (h : s.toList.drop k = xs ++ rest) :
    s.toList.drop (k + xs.length) = rest := by
  rw [← List.drop_drop, h, List.drop_left]

theorem size_of_drop {xs : List Char} (h : s.toList.drop k = xs) (hne : xs ≠ []) :
    s.size = k + xs.length := by
  have hlen := congrArg List.length h
  rw [List.length_drop, Array.length_toList] at hlen
  have : k < s.size := by
    rcases Nat.lt_or_ge k s.size with hk | hk
    · exact hk
    · rw [List.drop_eq_nil_of_le (by simpa using hk)] at h
      exact absurd h.symm hne
  omega

theorem sliceText_of_drop {xs rest : List Char} (h : s.toList.drop k = xs ++ rest) :
    sliceText s k (k + xs.length) = String.ofList xs := by
  rw [sliceText, Array.toList_extract, List.extract_eq_take_drop, h, Nat.add_sub_cancel_left,
    List.take_left]

/-- Skipping the characters of a class stops at the first character outside it. -/
theorem skipWhile_of_drop {p : Char → Bool} {run rest : List Char}
    (h : s.toList.drop k = run ++ rest) (hrun : ∀ c ∈ run, p c = true)
    (hstop : ∀ c ∈ rest.head?, p c = false) : skipWhile s p k = k + run.length := by
  induction run generalizing k with
  | nil =>
    rw [skipWhile]
    split
    · next hk =>
      have hget : s[k]? = some s[k] := by simp [hk]
      rw [getElem?_eq_head?_drop, h, List.nil_append] at hget
      rw [hstop _ hget]
      simp
    · simp
  | cons c run ih =>
    have hget := getElem?_of_drop h
    have hk : k < s.size := by
      rcases Nat.lt_or_ge k s.size with hk | hk
      · exact hk
      · simp [hk] at hget
    have hnext : s.toList.drop (k + 1) = run ++ rest :=
      drop_of_drop (show s.toList.drop k = [c] ++ (run ++ rest) from h)
    have hc : s[k] = c := by simpa [hk] using hget
    rw [skipWhile, dif_pos hk, hc, hrun c List.mem_cons_self, if_pos rfl,
      ih hnext (fun d hd => hrun d (List.mem_cons_of_mem c hd)), List.length_cons]
    omega

/-- The first character of a list stops a class it lies outside. Closed instances are proved by
evaluating `p c`, never by deciding over every character. -/
theorem stops_at_head {p : Char → Bool} {c : Char} {rest : List Char} (h : p c = false) :
    ∀ d ∈ (c :: rest).head?, p d = false := by
  simp [h]

/-- Skipping stops at once before a character outside the class. -/
theorem skipWhile_of_stop {p : Char → Bool} {rest : List Char} (h : s.toList.drop k = rest)
    (hstop : ∀ c ∈ rest.head?, p c = false) : skipWhile s p k = k :=
  skipWhile_of_drop (show s.toList.drop k = [] ++ rest from h) (by simp) hstop

theorem skipBlankBack_low {low e : Nat} (h : e ≤ low) : skipBlankBack s low e = e := by
  cases e with
  | zero => rfl
  | succ e => rw [skipBlankBack, if_pos h]

theorem skipBlankBack_stop {low e : Nat} {c : Char} (hlow : low ≤ e) (hc : s[e]? = some c)
    (hb : isBlank c = false) : skipBlankBack s low (e + 1) = e + 1 := by
  rw [skipBlankBack, if_neg (by omega), hc]
  simp [hb]

theorem skipBlankBack_blank {low e : Nat} {c : Char} (hlow : low ≤ e) (hc : s[e]? = some c)
    (hb : isBlank c = true) : skipBlankBack s low (e + 1) = skipBlankBack s low e := by
  rw [skipBlankBack, if_neg (by omega), hc]
  simp [hb]

end Reading

/-! ### Written attributes -/

/-- How an attribute value is written: between double quotes, between single quotes, or between
braces as an expression. -/
inductive ValueForm where
  | doubleQuoted
  | singleQuoted
  | braced
  deriving DecidableEq, Repr

namespace ValueForm

/-- The mark that opens a value of this form. -/
def opening : ValueForm → Char
  | doubleQuoted => '"'
  | singleQuoted => '\''
  | braced => '{'

/-- The mark that closes a value of this form. -/
def closing : ValueForm → Char
  | doubleQuoted => '"'
  | singleQuoted => '\''
  | braced => '}'

/-- Whether a value of this form may hold `c`: no angle bracket, no closing mark, and between
braces no opening brace either. -/
def admits : ValueForm → Char → Bool
  | doubleQuoted, c => c != '"' && c != '<' && c != '>'
  | singleQuoted, c => c != '\'' && c != '<' && c != '>'
  | braced, c => c != '{' && c != '}' && c != '<' && c != '>'

/-- Whether a value of this form is an expression. -/
def isExpression : ValueForm → Bool
  | braced => true
  | _ => false

/-- The characters that reading a value of this form steps over. -/
def inValue : ValueForm → Char → Bool
  | doubleQuoted, c => c != '"'
  | singleQuoted, c => c != '\''
  | braced, c => c != '{' && c != '}'

theorem inValue_of_admits {f : ValueForm} {c : Char} (h : f.admits c = true) :
    f.inValue c = true := by
  cases f <;> simp_all [admits, inValue]

theorem inValue_closing (f : ValueForm) : f.inValue f.closing = false := by
  cases f <;> rfl

end ValueForm

/-- An attribute as a tag writes it: a name of attribute syntax and, unless the attribute stands
alone, the form and text of its value, which holds none of the characters its form excludes. -/
structure WrittenAttribute where
  name : String
  value : Option (ValueForm × String)
  name_valid : isAttributeName name.toList = true
  value_valid : ∀ fv ∈ value, ∀ c ∈ fv.2.toList, fv.1.admits c = true

namespace WrittenAttribute

/-- The text of a value after the name: `=` and the value between the marks of its form. -/
def valueText : Option (ValueForm × String) → List Char
  | none => []
  | some (f, v) => '=' :: f.opening :: v.toList ++ [f.closing]

/-- The text of the attribute. -/
def text (a : WrittenAttribute) : List Char := a.name.toList ++ valueText a.value

/-- The attribute it stands for: a flag, a verbatim value, or a verbatim expression. -/
def toAttribute (a : WrittenAttribute) : Attribute :=
  match a.value with
  | none => { name := a.name }
  | some (f, v) => { name := a.name, value := some v, expression := f.isExpression }

/-- Attributes written one after another, each after a space. -/
def spaced : List WrittenAttribute → List Char
  | [] => []
  | a :: as => ' ' :: a.text ++ spaced as

/-- What may follow a written attribute: nothing, or a space and the next attribute. -/
def Follows (rest : List Char) : Prop :=
  rest = [] ∨ ∃ c cs, rest = ' ' :: c :: cs ∧ isAttributeStart c = true

theorem text_starts (a : WrittenAttribute) :
    ∃ c cs, a.text = c :: cs ∧ isAttributeStart c = true := by
  have h := a.name_valid
  cases hn : a.name.toList with
  | nil => rw [hn] at h; cases h
  | cons c cs =>
    rw [hn, isAttributeName, Bool.and_eq_true] at h
    exact ⟨c, cs ++ valueText a.value, by rw [text, hn]; rfl, h.1⟩

theorem spaced_follows : ∀ as : List WrittenAttribute, Follows (spaced as)
  | [] => .inl rfl
  | a :: as => by
    obtain ⟨c, cs, htext, hc⟩ := a.text_starts
    exact .inr ⟨c, cs ++ spaced as, by rw [spaced, htext]; rfl, hc⟩

theorem name_chars (a : WrittenAttribute) :
    ∀ c ∈ a.name.toList, isAttributeStart c = true ∨ isNameChar c = true := by
  have hname := a.name_valid
  cases hn : a.name.toList with
  | nil => rw [hn] at hname; cases hname
  | cons c cs =>
    rw [hn, isAttributeName, Bool.and_eq_true, List.all_eq_true] at hname
    intro d hd
    rcases List.mem_cons.1 hd with rfl | hd
    · exact .inl hname.1
    · exact .inr (hname.2 d hd)

/-- A written attribute holds no angle bracket. -/
theorem text_angle_free (a : WrittenAttribute) :
    ∀ c ∈ a.text, (c != '<' && c != '>') = true := by
  intro c hc
  rw [text, List.mem_append] at hc
  rcases hc with hc | hc
  · rcases a.name_chars c hc with h | h
    · exact angle_free_of_class (by decide) (by decide) h
    · exact angle_free_of_class (by decide) (by decide) h
  · cases hv : a.value with
    | none => rw [hv, valueText] at hc; cases hc
    | some fv =>
      obtain ⟨f, v⟩ := fv
      rw [hv, valueText] at hc
      have hmarks : ∀ m ∈ ['=', f.opening, f.closing], (m != '<' && m != '>') = true :=
        List.all_eq_true.1 (by cases f <;> rfl)
      simp only [List.mem_cons, List.mem_append] at hc
      rcases hc with (rfl | rfl | hc) | hc
      · exact hmarks _ (by simp)
      · exact hmarks _ (by simp)
      · exact angle_free_of_class (by cases f <;> rfl) (by cases f <;> rfl) (a.value_valid _ hv c hc)
      · rcases hc with rfl | hc
        · exact hmarks _ (by simp)
        · cases hc

/-- A written attribute ends with a character that is neither blank nor `/`. -/
theorem text_last (a : WrittenAttribute) :
    ∃ x, a.text.getLast? = some x ∧ isBlank x = false ∧ x ≠ '/' := by
  cases hv : a.value with
  | none =>
    obtain ⟨c, cs, htext, -⟩ := a.text_starts
    obtain ⟨x, hx⟩ : ∃ x, a.text.getLast? = some x :=
      ⟨_, List.getLast?_eq_some_getLast (by simp [htext])⟩
    have hmem : x ∈ a.name.toList := by
      have := List.mem_of_getLast? hx
      rwa [text, hv, valueText, List.append_nil] at this
    refine ⟨x, hx, ?_, ?_⟩
    · rcases a.name_chars x hmem with h | h
      · exact isAttributeStart_not_blank h
      · exact isNameChar_not_blank h
    · rintro rfl
      rcases a.name_chars _ hmem with h | h <;> cases h
  | some fv =>
    obtain ⟨f, v⟩ := fv
    refine ⟨f.closing, ?_, by cases f <;> rfl, by cases f <;> decide⟩
    rw [text, hv, valueText, List.getLast?_append, List.getLast?_append]
    rfl

theorem spaced_angle_free :
    ∀ as : List WrittenAttribute, ∀ c ∈ spaced as, (c != '<' && c != '>') = true
  | [], _, hc => by cases hc
  | a :: as, c, hc => by
    rw [spaced, List.mem_append, List.mem_cons] at hc
    rcases hc with (rfl | hc) | hc
    · rfl
    · exact a.text_angle_free c hc
    · exact spaced_angle_free as c hc

theorem spaced_last : ∀ as : List WrittenAttribute, as ≠ [] →
    ∃ x, (spaced as).getLast? = some x ∧ isBlank x = false ∧ x ≠ '/'
  | [], h => absurd rfl h
  | [a], _ => by
    obtain ⟨x, hx, hxb, hxs⟩ := a.text_last
    refine ⟨x, ?_, hxb, hxs⟩
    rw [spaced, spaced, List.append_nil, List.getLast?_cons, hx]
    rfl
  | a :: b :: as, _ => by
    obtain ⟨x, hx, hxb, hxs⟩ := spaced_last (b :: as) (List.cons_ne_nil _ _)
    refine ⟨x, ?_, hxb, hxs⟩
    rw [spaced, List.getLast?_append, hx]
    rfl

/-- What follows an attribute's name cannot continue it: `=` when it has a value, else a space
or nothing. -/
theorem follows_name (a : WrittenAttribute) {rest : List Char} (hrest : Follows rest) :
    ∀ d ∈ (valueText a.value ++ rest).head?, isNameChar d = false := by
  intro d hd
  cases hv : a.value with
  | some fv =>
    rw [hv, valueText] at hd
    cases hd
    rfl
  | none =>
    rw [hv, valueText, List.nil_append] at hd
    rcases hrest with rfl | ⟨c, cs, rfl, -⟩
    · cases hd
    · cases hd
      rfl

end WrittenAttribute

/-! ### Reading written attributes -/

section Attributes

variable {s : Array Char} {k fuel : Nat}

open WrittenAttribute

/-- A written value is read verbatim, with whether it is an expression, up to its closing mark. -/
theorem attributeValueAt_written {i : Nat} {f : ValueForm} {v rest : List Char}
    (hv : ∀ c ∈ v, f.admits c = true) (h : s.toList.drop i = f.opening :: v ++ f.closing :: rest) :
    attributeValueAt s i = some (String.ofList v, f.isExpression, i + v.length + 2) := by
  have hopen := getElem?_of_drop h
  have hv' : s.toList.drop (i + 1) = v ++ f.closing :: rest :=
    drop_of_drop (show s.toList.drop i = [f.opening] ++ (v ++ f.closing :: rest) from h)
  have hclose : s.toList.drop (i + 1 + v.length) = f.closing :: rest := drop_of_drop hv'
  have hsize : i + 1 + v.length < s.size := by
    rw [size_of_drop hclose (List.cons_ne_nil _ _), List.length_cons]
    omega
  have hslice := sliceText_of_drop hv'
  have he : skipWhile s f.inValue (i + 1) = i + 1 + v.length :=
    skipWhile_of_drop hv' (fun c hc => ValueForm.inValue_of_admits (hv c hc))
      (by simp [ValueForm.inValue_closing])
  have hend : i + 1 + v.length + 1 = i + v.length + 2 := by omega
  cases f with
  | doubleQuoted =>
    change skipWhile s (· != '"') (i + 1) = _ at he
    rw [attributeValueAt, hopen]
    simp only [ValueForm.opening, he, hslice, if_pos hsize, hend, ValueForm.isExpression]
  | singleQuoted =>
    change skipWhile s (· != '\'') (i + 1) = _ at he
    rw [attributeValueAt, hopen]
    simp only [ValueForm.opening, he, hslice, if_pos hsize, hend, ValueForm.isExpression]
  | braced =>
    -- a braced value is closed by `}` where the quoted ones are closed by the end of the text
    change skipWhile s (fun c => c != '{' && c != '}') (i + 1) = _ at he
    rw [attributeValueAt, hopen]
    simp only [ValueForm.opening, he, hslice, getElem?_of_drop hclose, ValueForm.closing, hend,
      ValueForm.isExpression]
    rfl

/-- A character that cannot start a name is stepped over. -/
theorem attributesOf_go_skip {c : Char} (hc : s[k]? = some c) (hstart : isAttributeStart c = false) :
    attributesOf.go s (fuel + 1) k = attributesOf.go s fuel (k + 1) := by
  rw [attributesOf.go, hc]
  simp only [hstart, Bool.false_eq_true, if_false]

/-- One step of reading attributes reads a written attribute whole. -/
theorem attributesOf_go_written (a : WrittenAttribute) {rest : List Char}
    (h : s.toList.drop k = a.text ++ rest) (hrest : Follows rest) :
    attributesOf.go s (fuel + 1) k = a.toAttribute :: attributesOf.go s fuel (k + a.text.length) := by
  have hname := a.name_valid
  cases hn : a.name.toList with
  | nil => rw [hn] at hname; cases hname
  | cons c cs =>
    rw [hn, isAttributeName, Bool.and_eq_true, List.all_eq_true] at hname
    have hafter : s.toList.drop (k + a.name.length) = valueText a.value ++ rest := by
      rw [← String.length_toList]
      exact drop_of_drop (by rw [h, text, List.append_assoc])
    have hend : skipWhile s isNameChar (k + 1) = k + a.name.length := by
      have h1 : s.toList.drop (k + 1) = cs ++ (valueText a.value ++ rest) :=
        drop_of_drop (show s.toList.drop k = [c] ++ _ by rw [h, text, hn]; simp)
      rw [skipWhile_of_drop h1 hname.2 (a.follows_name hrest), ← String.length_toList, hn,
        List.length_cons]
      omega
    have hslice : sliceText s k (k + a.name.length) = a.name := by
      rw [← String.length_toList, sliceText_of_drop (by rw [h, text, List.append_assoc]),
        String.ofList_toList]
    rw [attributesOf.go, getElem?_of_drop (show s.toList.drop k = c :: _ by rw [h, text, hn]; rfl)]
    simp only [hname.1, if_true, hend, hslice]
    cases hv : a.value with
    | none =>
      rw [hv, valueText, List.nil_append] at hafter
      -- a flag: after the blanks comes the next attribute's name or nothing, never `=`
      have hno : (s[skipWhile s isBlank (k + a.name.length)]? == some '=') = false := by
        rcases hrest with rfl | ⟨d, ds, rfl, hd⟩
        · rw [skipWhile_of_stop hafter (by simp), getElem?_eq_head?_drop, hafter]
          rfl
        · rw [skipWhile_of_drop (show _ = [' '] ++ d :: ds from hafter) (List.all_eq_true.1 rfl)
              (by simpa using isAttributeStart_not_blank hd), getElem?_eq_head?_drop,
            drop_of_drop (show _ = [' '] ++ d :: ds from hafter)]
          have : d ≠ '=' := by rintro rfl; cases hd
          simpa using this
      simp only [hno, Bool.false_eq_true, if_false, toAttribute, hv, text, valueText,
        List.append_nil, String.length_toList]
    | some fv =>
      obtain ⟨f, v⟩ := fv
      have hvalid : ∀ c ∈ v.toList, f.admits c = true := a.value_valid (f, v) hv
      rw [hv, valueText] at hafter
      have hopen : s.toList.drop (k + a.name.length + 1) =
          f.opening :: v.toList ++ f.closing :: rest :=
        drop_of_drop (show _ = ['='] ++ _ by rw [hafter]; simp)
      have hblank : isBlank f.opening = false := by cases f <;> rfl
      rw [skipWhile_of_stop hafter (by simp; decide), getElem?_of_drop hafter,
        skipWhile_of_stop hopen (by simpa using hblank), attributeValueAt_written hvalid hopen]
      have hlen : k + a.name.length + 1 + v.toList.length + 2 = k + a.text.length := by
        simp only [text, hv, valueText, List.length_append, List.length_cons, List.length_nil,
          String.length_toList]
        omega
      rw [if_pos (by decide), hlen]
      simp only [toAttribute, hv, String.ofList_toList]

/-- Attributes written one after another are read in order, given fuel for every character
left. -/
theorem attributesOf_go_spaced : ∀ (as : List WrittenAttribute) (k fuel : Nat),
    s.toList.drop k = spaced as → s.size < k + fuel →
      attributesOf.go s fuel k = as.map toAttribute
  | [], k, fuel, h, _ => by
    cases fuel with
    | zero => rfl
    | succ fuel => rw [attributesOf.go, getElem?_eq_head?_drop, h]; rfl
  | a :: as, k, fuel, h, hfuel => by
    have hsize := size_of_drop h (List.cons_ne_nil _ _)
    obtain ⟨c, cs, htext, -⟩ := a.text_starts
    have hlen : (spaced (a :: as)).length = a.text.length + 1 + (spaced as).length := by
      simp [spaced]
      omega
    have htext_pos : 1 ≤ a.text.length := by rw [htext]; simp
    have hrest : s.toList.drop (k + 1) = a.text ++ spaced as :=
      drop_of_drop (show _ = [' '] ++ _ by rw [h]; rfl)
    obtain ⟨fuel, rfl⟩ : ∃ f, fuel = f + 2 := ⟨fuel - 2, by omega⟩
    rw [attributesOf_go_skip (getElem?_of_drop h) (by decide),
      attributesOf_go_written a hrest (spaced_follows as),
      attributesOf_go_spaced as _ fuel (drop_of_drop hrest) (by omega), List.map_cons]

/-- Blanks hold no attribute. -/
theorem attributesOf_go_blanks : ∀ (k fuel : Nat),
    (∀ c ∈ s.toList.drop k, isBlank c = true) → attributesOf.go s fuel k = []
  | _, 0, _ => rfl
  | k, fuel + 1, h => by
    rw [attributesOf.go, getElem?_eq_head?_drop]
    cases hd : s.toList.drop k with
    | nil => rfl
    | cons c cs =>
      have hc : isBlank c = true := h c (by rw [hd]; exact List.mem_cons_self)
      have hstart : isAttributeStart c = false := by
        cases hs : isAttributeStart c with
        | false => rfl
        | true => rw [isAttributeStart_not_blank hs] at hc; cases hc
      have hnext : s.toList.drop (k + 1) = cs := drop_of_drop (show _ = [c] ++ cs from hd)
      simp only [List.head?_cons, hstart, Bool.false_eq_true, if_false]
      exact attributesOf_go_blanks (k + 1) fuel fun d hd' =>
        h d (by rw [hd]; exact List.mem_cons_of_mem c (hnext ▸ hd'))

theorem attributesOf_spaced (as : List WrittenAttribute) :
    attributesOf (String.ofList (spaced as)) = as.map toAttribute :=
  attributesOf_go_spaced as 0 _ (by simp) (by simp)

theorem attributesOf_blanks {t : String} (h : ∀ c ∈ t.toList, isBlank c = true) :
    attributesOf t = [] :=
  attributesOf_go_blanks 0 _ (by simpa using h)

/-- Written attributes after the blank that follows a tag's name: the attribute text starts
after that blank and ends with the last attribute. -/
theorem spaced_bounds {a : WrittenAttribute} {as : List WrittenAttribute} {p : Nat} {rest : List Char}
    (h : s.toList.drop p = spaced (a :: as) ++ rest) :
    skipWhile s isBlank p = p + 1 ∧
      skipBlankBack s (p + 1) (p + (spaced (a :: as)).length) = p + (spaced (a :: as)).length := by
  obtain ⟨d, ds, htext, hd⟩ := a.text_starts
  obtain ⟨x, hx, hxb, -⟩ := spaced_last (a :: as) (List.cons_ne_nil _ _)
  have hlen : 2 ≤ (spaced (a :: as)).length := by simp [spaced, htext]
  constructor
  · exact skipWhile_of_drop (show _ = [' '] ++ (d :: (ds ++ spaced as ++ rest)) by
      rw [h, spaced, htext]; simp) (List.all_eq_true.1 rfl)
      (by simpa using isAttributeStart_not_blank hd)
  · have hlast : s[p + ((spaced (a :: as)).length - 1)]? = some x := by
      rw [getElem?_add_of_drop h, List.getElem?_append_left (by omega),
        ← List.getLast?_eq_getElem?, hx]
    rw [show p + (spaced (a :: as)).length = p + ((spaced (a :: as)).length - 1) + 1 by omega]
    exact skipBlankBack_stop (by omega) hlast hxb

end Attributes

/-! ### Written tags -/

/-- A component tag as written: a name of tag syntax, its attributes, and whether it closes
itself. -/
structure WrittenTag where
  name : String
  attributes : List WrittenAttribute
  selfClosing : Bool
  name_valid : isTagName name.toList = true

namespace WrittenTag

/-- The end of a tag: `>`, or ` />` for a tag that closes itself. -/
def ending (selfClosing : Bool) : List Char := if selfClosing then [' ', '/', '>'] else ['>']

/-- The characters of the tag: `<`, the name, each attribute after a space, and the end. -/
def chars (t : WrittenTag) : List Char :=
  '<' :: t.name.toList ++ WrittenAttribute.spaced t.attributes ++ ending t.selfClosing

/-- The text of the tag. -/
def text (t : WrittenTag) : String := String.ofList t.chars

end WrittenTag

section Tags

variable {s : Array Char} {n : List Char}

/-- The name of a tag written as `<`, the name, and a character that cannot continue it. -/
theorem skipWhile_tag_name {rest : List Char} (hname : isTagName n = true)
    (h : s.toList = '<' :: (n ++ rest)) (hstop : ∀ d ∈ rest.head?, isNameChar d = false) :
    skipWhile s isNameChar 2 = 1 + n.length := by
  cases n with
  | nil => cases hname
  | cons c cs =>
    rw [isTagName, Bool.and_eq_true, List.all_eq_true] at hname
    rw [skipWhile_of_drop (show s.toList.drop 2 = cs ++ rest by rw [h]; rfl) hname.2 hstop,
      List.length_cons]
    omega

/-- The tag `<N>`. -/
theorem openTagAt_of_close (hname : isTagName n = true) (h : s.toList = '<' :: (n ++ ['>'])) :
    openTagAt s 0 = some ⟨String.ofList n, "", false, s.size⟩ := by
  cases n with
  | nil => cases hname
  | cons c cs =>
  have hdrop1 : s.toList.drop 1 = (c :: cs) ++ ['>'] := by rw [h]; rfl
  have hend := drop_of_drop hdrop1
  have hsize := size_of_drop hend (by simp)
  rw [openTagAt]
  simp only [getElem?_of_drop (show s.toList.drop 0 = '<' :: _ by rw [List.drop_zero, h]),
    Nat.zero_add, getElem?_of_drop hdrop1, skipWhile_tag_name hname h (stops_at_head rfl),
    getElem?_of_drop hend, sliceText_of_drop hdrop1, Option.map_some]
  rw [isTagName, Bool.and_eq_true] at hname
  rw [hname.1, if_pos (by decide), if_neg (by decide), if_pos (by decide), hsize, List.length_singleton]

/-- A tag whose name is followed by a blank ends at the next `>`, closes itself when `/` stands
before that `>`, and has the attribute text from the blank up to the blanks before its end. -/
theorem openTagAt_of_blank {body : List Char} {p g : Nat} {sc : Bool} (hname : isTagName n = true)
    (h : s.toList = '<' :: (n ++ ' ' :: body)) (hp : 1 + n.length = p) (hg : nextAngle s p = g)
    (hclose : s[g]? = some '>') (hsc : (s[g - 1]? == some '/') = sc) :
    openTagAt s 0 = some ⟨String.ofList n,
      sliceText s p (skipBlankBack s (skipWhile s isBlank p) (if sc then g - 1 else g)), sc, g + 1⟩ := by
  subst hp
  cases n with
  | nil => cases hname
  | cons c cs =>
  have hdrop1 : s.toList.drop 1 = (c :: cs) ++ ' ' :: body := by rw [h]; rfl
  rw [openTagAt]
  simp only [getElem?_of_drop (show s.toList.drop 0 = '<' :: _ by rw [List.drop_zero, h]),
    Nat.zero_add, getElem?_of_drop hdrop1,
    skipWhile_tag_name hname h (fun d hd => by cases hd; rfl),
    getElem?_of_drop (drop_of_drop hdrop1), sliceText_of_drop hdrop1, Option.map_some, hg, hclose,
    hsc]
  rw [isTagName, Bool.and_eq_true] at hname
  rw [hname.1, if_pos (by decide), if_pos (by decide), if_pos (by decide)]

end Tags

/-- A written tag read at its start gives its name, whether it closes itself, and an attribute
text that reads as its attributes; it ends at the end of the text. -/
theorem openTagAt_written (t : WrittenTag) :
    ∃ text, openTagAt t.chars.toArray 0 = some ⟨t.name, text, t.selfClosing, t.chars.length⟩ ∧
      attributesOf text = t.attributes.map WrittenAttribute.toAttribute := by
  generalize hs : t.chars.toArray = s
  have hsize : t.chars.length = s.size := by rw [← hs, List.size_toArray]
  have hlist : s.toList = '<' :: (t.name.toList ++ (WrittenAttribute.spaced t.attributes ++
      WrittenTag.ending t.selfClosing)) := by
    rw [← hs, List.toList_toArray, WrittenTag.chars]
    simp
  have hname : String.ofList t.name.toList = t.name := String.ofList_toList
  have hdropp : s.toList.drop (1 + t.name.toList.length) =
      WrittenAttribute.spaced t.attributes ++ WrittenTag.ending t.selfClosing :=
    drop_of_drop (show s.toList.drop 1 = t.name.toList ++ _ by rw [hlist]; rfl)
  rw [hsize]
  generalize hp : 1 + t.name.toList.length = p at hdropp
  cases ha : t.attributes with
  | nil =>
    rw [ha, WrittenAttribute.spaced, List.nil_append] at hlist hdropp
    cases hsc : t.selfClosing with
    | false =>
      rw [hsc, WrittenTag.ending, if_neg Bool.false_ne_true] at hlist
      refine ⟨"", ?_, attributesOf_blanks (by simp)⟩
      rw [openTagAt_of_close t.name_valid hlist, hname]
    | true =>
      rw [hsc, WrittenTag.ending, if_pos rfl] at hlist hdropp
      have hg : nextAngle s p = p + 2 :=
        skipWhile_of_drop (show _ = [' ', '/'] ++ ['>'] from hdropp) (List.all_eq_true.1 rfl)
          (stops_at_head rfl)
      have hsc' : (s[p + 2 - 1]? == some '/') = true := by
        rw [show p + 2 - 1 = p + 1 by omega, getElem?_add_of_drop hdropp]
        rfl
      have hp1 : skipWhile s isBlank p = p + 1 :=
        skipWhile_of_drop (show _ = [' '] ++ ['/', '>'] from hdropp) (List.all_eq_true.1 rfl)
          (stops_at_head rfl)
      have hsize : s.size = p + 2 + 1 := size_of_drop hdropp (by simp)
      refine ⟨String.ofList [' '], ?_,
        attributesOf_blanks (by rw [String.toList_ofList]; exact List.all_eq_true.1 rfl)⟩
      rw [openTagAt_of_blank t.name_valid hlist hp hg (getElem?_add_of_drop hdropp 2) hsc', hname,
        hp1, if_pos rfl, show p + 2 - 1 = p + 1 by omega, skipBlankBack_low (Nat.le_refl _), hsize,
        show p + 1 = p + [' '].length from rfl,
        sliceText_of_drop (show _ = [' '] ++ ['/', '>'] from hdropp)]
  | cons a as =>
    rw [ha] at hlist hdropp
    have hlist' : s.toList = '<' :: (t.name.toList ++ ' ' :: (a.text ++ WrittenAttribute.spaced as ++
        WrittenTag.ending t.selfClosing)) := by
      rw [hlist, WrittenAttribute.spaced]
      simp
    obtain ⟨hp1, hback⟩ := spaced_bounds hdropp
    generalize hA : WrittenAttribute.spaced (a :: as) = A at hdropp hp1 hback
    have hangle : ∀ c ∈ A, (c != '<' && c != '>') = true :=
      hA ▸ WrittenAttribute.spaced_angle_free _
    obtain ⟨x, hx, -, hxs⟩ := hA ▸ WrittenAttribute.spaced_last (a :: as) (List.cons_ne_nil _ _)
    have hlen : 1 ≤ A.length := by
      cases A with
      | nil => cases hx
      | cons _ _ => simp
    have hattrs : attributesOf (sliceText s p (p + A.length)) =
        (a :: as).map WrittenAttribute.toAttribute := by
      rw [sliceText_of_drop hdropp, ← hA, attributesOf_spaced]
    refine ⟨sliceText s p (p + A.length), ?_, hattrs⟩
    cases hsc : t.selfClosing with
    | false =>
      rw [hsc, WrittenTag.ending, if_neg Bool.false_ne_true] at hdropp
      have hg : nextAngle s p = p + A.length := skipWhile_of_drop hdropp hangle (stops_at_head rfl)
      have hsc' : (s[p + A.length - 1]? == some '/') = false := by
        rw [show p + A.length - 1 = p + (A.length - 1) by omega, getElem?_add_of_drop hdropp,
          List.getElem?_append_left (by omega), ← List.getLast?_eq_getElem?, hx]
        simpa using hxs
      have hsize : s.size = p + A.length + 1 := by
        rw [size_of_drop hdropp (by simp), List.length_append, List.length_singleton]
        omega
      rw [openTagAt_of_blank t.name_valid hlist' hp hg (getElem?_of_drop (drop_of_drop hdropp))
        hsc', hname, hp1, if_neg Bool.false_ne_true, hback, hsize]
    | true =>
      rw [hsc, WrittenTag.ending, if_pos rfl] at hdropp
      have hend : s.toList.drop (p + A.length) = [' ', '/', '>'] := drop_of_drop hdropp
      have hg : nextAngle s p = p + A.length + 2 := by
        rw [nextAngle, skipWhile_of_drop (show _ = (A ++ [' ', '/']) ++ ['>'] by rw [hdropp]; simp)
          (fun c hc => (List.mem_append.1 hc).elim (hangle c) fun hc => by
            rcases List.mem_cons.1 hc with rfl | hc
            · rfl
            · rw [List.mem_singleton.1 hc]; rfl) (stops_at_head rfl)]
        simp only [List.length_append, List.length_cons, List.length_nil]
        omega
      have hsc' : (s[p + A.length + 2 - 1]? == some '/') = true := by
        rw [show p + A.length + 2 - 1 = p + A.length + 1 by omega, getElem?_add_of_drop hend]
        rfl
      have hsize : s.size = p + A.length + 2 + 1 := by
        rw [size_of_drop hdropp (by simp), List.length_append]
        simp only [List.length_cons, List.length_nil]
        omega
      rw [openTagAt_of_blank t.name_valid hlist' hp hg (getElem?_add_of_drop hend 2) hsc', hname,
        hp1, if_pos rfl, show p + A.length + 2 - 1 = p + A.length + 1 by omega,
        skipBlankBack_blank (by omega) (getElem?_of_drop hend) (by decide), hback, hsize]

/-- A component tag written from its parts reads back as those parts: its name, whether it
closes itself, and its attributes in order, each as it was written. -/
theorem written_tag_reads_back (t : WrittenTag) (kind : NodeKind) :
    ∃ tag, openTagWhole? t.text = some tag ∧ tag.selfClosing = t.selfClosing ∧
      elementOf kind tag =
        { kind, name := some t.name, attributes := t.attributes.map WrittenAttribute.toAttribute } := by
  obtain ⟨text, hopen, hattrs⟩ := openTagAt_written t
  refine ⟨⟨t.name, text, t.selfClosing, t.chars.length⟩, ?_, rfl, ?_⟩
  · rw [openTagWhole?, WrittenTag.text, String.toList_ofList]
    simp only [hopen, List.size_toArray, beq_self_eq_true, if_true]
  · rw [elementOf, hattrs]

/-- The tag `<Card a="x" b={y} c />`: a quoted value, an expression and a flag. -/
def cardTag : WrittenTag where
  name := "Card"
  attributes :=
    [⟨"a", some (.doubleQuoted, "x"), rfl, fun _ h => by
        cases Option.mem_some_iff.1 h
        exact List.all_eq_true.1 rfl⟩,
     ⟨"b", some (.braced, "y"), rfl, fun _ h => by
        cases Option.mem_some_iff.1 h
        exact List.all_eq_true.1 rfl⟩,
     ⟨"c", none, rfl, by rintro _ ⟨⟩⟩]
  selfClosing := true
  name_valid := rfl

theorem card_tag_reads_back :
    cardTag.text = "<Card a=\"x\" b={y} c />" ∧
    ∃ tag, openTagWhole? cardTag.text = some tag ∧ tag.selfClosing = true ∧
      elementOf .flowElement tag =
        { kind := .flowElement, name := some "Card",
          attributes := [{ name := "a", value := some "x" },
            { name := "b", value := some "y", expression := true }, { name := "c" }] } :=
  ⟨rfl, written_tag_reads_back cardTag .flowElement⟩

end Manuscript.Document
