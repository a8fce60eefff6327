import Manuscript.Build.Cache
import Manuscript.Proofs.Data.JsonString
import Manuscript.Proofs.Daemon.Cache
import Mathlib.Data.String.Basic
import Mathlib.Data.List.Perm.Basic
import Mathlib.Data.List.Nodup
import Mathlib.Data.List.Forall2

/-!
# Fingerprints are canonical

A fingerprint is the SHA-256 digest of a configuration's JSON text with sorted keys, compact
separators and ASCII-only strings (`configHash`). JSON data are null, booleans, integers, text,
lists and mappings whose keys are distinct texts (`Value.IsJson`). Integers are limited to
`Decimal.maxDigits` decimal digits, since no longer one is written. Two values are `Reordered`
when they differ only in the order of the entries of their mappings, at any depth.

On JSON data the text is a canonical form. Reordered values are written alike
(`write_eq_of_reordered`). The text of a value can be read back from the front of any run of
characters that does not go on with a digit (`readsBack_of_isJson`), so values written alike
are reordered. Main statement: `configHash_canonical`. Two configurations of JSON data have
equal fingerprints exactly when they are reordered, as long as the digest tells their two texts
apart. An integer of more than `Decimal.maxDigits` digits has no fingerprint at all
(`configHash_long_integer`). Requests to the build service that share a fingerprint thus share
their format and compiler fields, as long as the digest has no collision among their texts
(`Daemon.fingerprintsDistinct_of_injOn`).
-/

theorem List.Forall₂.of_mem {α β : Type} {R S : α → β → Prop} {l : List α} {u : List β}
    (h : List.Forall₂ R l u) (hS : ∀ a ∈ l, ∀ b ∈ u, R a b → S a b) :
    List.Forall₂ S l u := by
  induction h with
  | nil => exact .nil
  | cons hab _ ih =>
    refine .cons (hS _ List.mem_cons_self _ List.mem_cons_self hab) (ih ?_)
    exact fun a ha b hb => hS a (List.mem_cons_of_mem _ ha) b (List.mem_cons_of_mem _ hb)

theorem List.map_eq_of_forall₂ {α γ : Type} {g : α → γ} {l l' : List α}
    (h : List.Forall₂ (fun a b => g a = g b) l l') : l.map g = l'.map g := by
  induction h with
  | nil => rfl
  | cons hab _ ih => rw [List.map_cons, List.map_cons, hab, ih]

namespace Manuscript

open Program.Read (NoDigitNext integer integer_toString toString_int_head)

namespace Value

/-- JSON data: null, booleans, integers of at most `Decimal.maxDigits` decimal digits, text,
lists, and mappings whose keys are distinct texts. -/
inductive IsJson : Value → Prop
  | null : IsJson .null
  | bool (b : Bool) : IsJson (.bool b)
  | int {n : Int} : (Nat.toDigits 10 n.natAbs).length ≤ Decimal.maxDigits → IsJson (.int n)
  | str (s : String) : IsJson (.str s)
  | list {xs : List Value} : (∀ x ∈ xs, IsJson x) → IsJson (.list xs)
  | record {kvs : List (String × Value)} : (kvs.map Prod.fst).Nodup →
      (∀ kv ∈ kvs, IsJson kv.2) → IsJson (.record kvs)

/-- Two values that differ only in the order of the entries of their mappings, at any depth:
the entries of two mappings can be ordered so that their keys agree and their values are
reordered in turn. -/
inductive Reordered : Value → Value → Prop
  | null : Reordered .null .null
  | bool (b : Bool) : Reordered (.bool b) (.bool b)
  | int (n : Int) : Reordered (.int n) (.int n)
  | str (s : String) : Reordered (.str s) (.str s)
  | list {xs ys : List Value} : List.Forall₂ Reordered xs ys → Reordered (.list xs) (.list ys)
  | dict {es es' ls ms : List (Value × Value)} : es.Perm ls → es'.Perm ms →
      ls.map Prod.fst = ms.map Prod.fst →
      List.Forall₂ Reordered (ls.map Prod.snd) (ms.map Prod.snd) → Reordered (.dict es) (.dict es')

/-- The kind of a value as the first character of its JSON text shows it; `true` and `false`
are told apart. -/
def classOf : Value → Nat
  | .null => 0
  | .bool b => if b then 1 else 2
  | .str _ => 3
  | .list _ => 4
  | .dict _ => 5
  | _ => 6

theorem classOf_le (v : Value) : v.classOf ≤ 6 := by
  cases v
  case bool b => cases b <;> simp [classOf]
  all_goals simp [classOf]

end Value

namespace Json

/-- The kind of value whose JSON text starts with `c`, as `Value.classOf` numbers them; 7 for a
character that starts no value. -/
def headClass (c : Char) : Nat :=
  if c = 'n' then 0 else if c = 't' then 1 else if c = 'f' then 2 else if c = '"' then 3
  else if c = '[' then 4 else if c = '{' then 5 else if c = '-' ∨ c.isDigit then 6 else 7

theorem headClass_of_number {c : Char} (h : c = '-' ∨ c.isDigit = true) : headClass c = 6 := by
  have hletters : c ≠ 'n' ∧ c ≠ 't' ∧ c ≠ 'f' ∧ c ≠ '"' ∧ c ≠ '[' ∧ c ≠ '{' := by
    rcases h with rfl | h
    · decide
    · refine ⟨?_, ?_, ?_, ?_, ?_, ?_⟩ <;> rintro rfl <;> exact absurd h (by decide)
  obtain ⟨hn, ht, hf, hq, hl, hb⟩ := hletters
  rw [headClass, if_neg hn, if_neg ht, if_neg hf, if_neg hq, if_neg hl, if_neg hb, if_pos h]

/-! ## Writing JSON data -/

theorem write_null (st : Style) : write st .null = .ok "null" := by
  rw [write]

theorem write_int {st : Style} {n : Int} (h : (Nat.toDigits 10 n.natAbs).length ≤ Decimal.maxDigits) :
    write st (.int n) = .ok (toString n) := by
  rw [write, intText, if_neg (by omega)]

theorem write_list (st : Style) (xs : List Value) :
    write st (.list xs) = xs.mapM (write st) >>= fun parts =>
      pure ("[" ++ st.itemSep.intercalate parts ++ "]") := by
  rw [write]

/-- The order in which writing with sorted keys puts text keys. -/
def keyFirst {β : Type} (a b : String × β) : Bool := !decide (b.1 < a.1)

theorem keyFirst_iff {β : Type} {a b : String × β} : keyFirst a b = true ↔ a.1 ≤ b.1 := by
  rw [keyFirst, Bool.not_eq_true', decide_eq_false_iff_not, not_lt]

theorem pairwise_mergeSort_keyFirst {β : Type} (l : List (String × β)) :
    (l.mergeSort keyFirst).Pairwise fun a b => keyFirst a b = true := by
  refine List.pairwise_mergeSort (fun a b c hab hbc => ?_) (fun a b => ?_) l
  · exact keyFirst_iff.2 (le_trans (keyFirst_iff.1 hab) (keyFirst_iff.1 hbc))
  · rcases le_total a.1 b.1 with h | h <;> simp [keyFirst_iff.2 h]

/-- Sorting by text keys that are distinct puts every arrangement of the same entries in one
order. -/
theorem mergeSort_keyFirst_eq_of_perm {β : Type} {l l' : List (String × β)}
    (hkeys : (l.map Prod.fst).Nodup) (h : l.Perm l') :
    l.mergeSort keyFirst = l'.mergeSort keyFirst := by
  refine List.Perm.eq_of_pairwise (fun a b ha hb hab hba => ?_) (pairwise_mergeSort_keyFirst l)
    (pairwise_mergeSort_keyFirst l')
    ((List.mergeSort_perm l keyFirst).trans (h.trans (List.mergeSort_perm l' keyFirst).symm))
  have hsame : a.1 = b.1 := le_antisymm (keyFirst_iff.1 hab) (keyFirst_iff.1 hba)
  have hb' : b ∈ l := h.mem_iff.2 (List.mem_mergeSort.1 hb)
  exact List.inj_on_of_nodup_map hkeys (List.mem_mergeSort.1 ha) hb' hsame

/-- An entry of a mapping with its value written. -/
def writtenEntry (kv : String × Value) : String × Except Error String :=
  (kv.1, write fingerprintStyle kv.2)

/-- The text of an entry of a mapping, from the text of its value. -/
def entryText (kv : String × Except Error String) : Except Error String :=
  (fun t => quoteText true kv.1 ++ ":" ++ t) <$> kv.2

theorem map_writtenEntry_mergeSort (kvs : List (String × Value)) :
    (kvs.mergeSort keyFirst).map writtenEntry = (kvs.map writtenEntry).mergeSort keyFirst :=
  List.map_mergeSort fun _ _ _ _ => rfl

/-- A mapping with text keys is written entry by entry in the order of its keys. -/
theorem write_record (kvs : List (String × Value)) :
    write fingerprintStyle (.record kvs) =
      ((kvs.mergeSort keyFirst).map writtenEntry).mapM entryText >>= fun parts =>
        pure ("\x7b" ++ ",".intercalate parts ++ "\x7d") := by
  have hsorted : Json.orderedEntries true (kvs.map fun kv => (Value.str kv.1, kv.2)) =
      (kvs.mergeSort keyFirst).map fun kv => (Value.str kv.1, kv.2) := by
    rw [orderedEntries, if_pos rfl]
    refine (List.map_mergeSort ?_).symm
    intro _ _ _ _
    rfl
  have hentry : ∀ kv : String × Value,
      (do
        let kt ← keyText (Value.str kv.1)
        return quoteText true kt ++ ":" ++ (← write fingerprintStyle kv.2)) =
        entryText (writtenEntry kv) := by
    intro kv
    simp only [keyText, entryText, writtenEntry]
    cases write fingerprintStyle kv.2 <;> rfl
  rw [Value.record, write]
  simp only [fingerprintStyle]
  rw [@List.mapM_subtype _ _ _ _ _ _ _ _ (fun kv => do
    let kt ← keyText kv.1
    return quoteText true kt ++ ":" ++ (← write fingerprintStyle kv.2)) (fun _ _ => rfl),
    List.unattach_attach, hsorted, List.mapM_map, List.mapM_map]
  simp only [Function.comp_def, hentry]

theorem entryText_eq_ok {kv : String × Value} {p : String} :
    entryText (writtenEntry kv) = .ok p ↔
      ∃ tv, write fingerprintStyle kv.2 = .ok tv ∧ p = quoteText true kv.1 ++ ":" ++ tv := by
  unfold entryText writtenEntry
  cases write fingerprintStyle kv.2 with
  | error e => exact ⟨(nomatch ·), fun ⟨_, h, _⟩ => nomatch h⟩
  | ok tv =>
    refine ⟨fun h => ⟨tv, rfl, (Except.ok.inj h).symm⟩, fun ⟨_, h, hp⟩ => ?_⟩
    cases h
    rw [hp]
    rfl

theorem write_ok (st : Style) {v : Value} (hv : v.IsJson) : ∃ t, write st v = .ok t := by
  induction hv with
  | null => exact ⟨_, write_null st⟩
  | bool b => exact ⟨_, write_bool st b⟩
  | int hn => exact ⟨_, write_int hn⟩
  | str s => exact ⟨_, write_str st s⟩
  | list _ ih => exact write_list_ok st ih
  | record _ _ ih => exact write_record_ok st ih

theorem write_list_eq_ok {xs : List Value} {t : String}
    (h : write fingerprintStyle (.list xs) = .ok t) :
    ∃ parts, List.Forall₂ (fun x p => write fingerprintStyle x = .ok p) xs parts ∧
      t.toList = '[' :: [','].intercalate (parts.map String.toList) ++ [']'] := by
  rw [write_list] at h
  cases hxs : xs.mapM (write fingerprintStyle) with
  | error e =>
    rw [hxs] at h
    cases h
  | ok parts =>
    rw [hxs] at h
    cases h
    refine ⟨parts, Except.forall₂_of_mapM hxs, ?_⟩
    simp [fingerprintStyle, String.toList_intercalate]

theorem write_record_eq_ok {kvs : List (String × Value)} {t : String}
    (h : write fingerprintStyle (.record kvs) = .ok t) :
    ∃ parts, List.Forall₂ (fun kv p => ∃ tv, write fingerprintStyle kv.2 = .ok tv ∧
        p.toList = (quoteText true kv.1).toList ++ ':' :: tv.toList) (kvs.mergeSort keyFirst) parts ∧
      t.toList = '{' :: [','].intercalate (parts.map String.toList) ++ ['}'] := by
  rw [write_record] at h
  cases hps : ((kvs.mergeSort keyFirst).map writtenEntry).mapM entryText with
  | error e =>
    rw [hps] at h
    cases h
  | ok parts =>
    rw [hps] at h
    cases h
    refine ⟨parts, ?_, ?_⟩
    · refine (List.forall₂_map_left_iff.1 (Except.forall₂_of_mapM hps)).imp fun kv p hp => ?_
      obtain ⟨tv, htv, rfl⟩ := entryText_eq_ok.1 hp
      refine ⟨tv, htv, ?_⟩
      rw [String.toList_append, String.toList_append, show (":" : String).toList = [':'] by decide,
        List.append_assoc, List.singleton_append]
    · simp [String.toList_intercalate]

/-! ## The first character tells the kind -/

theorem write_head {v : Value} (hv : v.IsJson) {t : String}
    (h : write fingerprintStyle v = .ok t) : ∃ c u, t.toList = c :: u ∧ headClass c = v.classOf := by
  cases hv with
  | null =>
    rw [write_null] at h
    cases h
    exact ⟨'n', ['u', 'l', 'l'], by decide, by decide⟩
  | bool b =>
    rw [write_bool] at h
    cases h
    cases b
    · exact ⟨'f', ['a', 'l', 's', 'e'], by decide, by decide⟩
    · exact ⟨'t', ['r', 'u', 'e'], by decide, by decide⟩
  | int hn =>
    rename_i n
    rw [write_int hn] at h
    cases h
    obtain ⟨c, u, hcu, hc⟩ := toString_int_head n
    exact ⟨c, u, hcu, headClass_of_number hc⟩
  | str s =>
    rw [write_str] at h
    cases h
    exact ⟨'"', _, toList_quoteText true s, rfl⟩
  | list _ =>
    obtain ⟨_, -, ht⟩ := write_list_eq_ok h
    exact ⟨'[', _, ht, rfl⟩
  | record _ _ =>
    obtain ⟨_, -, ht⟩ := write_record_eq_ok h
    exact ⟨'{', _, ht, rfl⟩

/-- Two values of JSON data whose texts start one run of characters are of one kind. -/
theorem classOf_eq_of_append {v w : Value} (hv : v.IsJson) (hw : w.IsJson) {t t' : String}
    {r r' : List Char} (ht : write fingerprintStyle v = .ok t)
    (ht' : write fingerprintStyle w = .ok t') (h : t.toList ++ r = t'.toList ++ r') :
    v.classOf = w.classOf := by
  obtain ⟨c, u, hcu, hc⟩ := write_head hv ht
  obtain ⟨c', u', hcu', hc'⟩ := write_head hw ht'
  rw [hcu, hcu'] at h
  simp only [List.cons_append, List.cons.injEq] at h
  rw [← hc, ← hc', h.1]

end Json

namespace Value.IsJson

theorem eq_null {w : Value} (hw : w.IsJson) (h : w.classOf = 0) : w = .null := by
  cases hw
  case null => rfl
  case bool b => cases b <;> simp [classOf] at h
  all_goals simp [classOf, Value.record] at h

theorem eq_bool {w : Value} (hw : w.IsJson) {b : Bool} (h : w.classOf = (Value.bool b).classOf) :
    w = .bool b := by
  cases hw
  case bool b' => cases b <;> cases b' <;> simp [classOf] at h ⊢
  all_goals cases b <;> simp [classOf, Value.record] at h

theorem exists_int {w : Value} (hw : w.IsJson) (h : w.classOf = 6) :
    ∃ m, w = .int m ∧ (Nat.toDigits 10 m.natAbs).length ≤ Decimal.maxDigits := by
  cases hw
  case int m hm => exact ⟨m, rfl, hm⟩
  case bool b => cases b <;> simp [classOf] at h
  all_goals simp [classOf, Value.record] at h

theorem exists_str {w : Value} (hw : w.IsJson) (h : w.classOf = 3) : ∃ s, w = .str s := by
  cases hw
  case str s => exact ⟨s, rfl⟩
  case bool b => cases b <;> simp [classOf] at h
  all_goals simp [classOf, Value.record] at h

theorem exists_list {w : Value} (hw : w.IsJson) (h : w.classOf = 4) :
    ∃ ys, w = .list ys ∧ ∀ y ∈ ys, y.IsJson := by
  cases hw
  case list ys hys => exact ⟨ys, rfl, hys⟩
  case bool b => cases b <;> simp [classOf] at h
  all_goals simp [classOf, Value.record] at h

theorem exists_record {w : Value} (hw : w.IsJson) (h : w.classOf = 5) :
    ∃ kvs, w = .record kvs ∧ (kvs.map Prod.fst).Nodup ∧ ∀ kv ∈ kvs, kv.2.IsJson := by
  cases hw
  case record kvs hkeys hvals => exact ⟨kvs, rfl, hkeys, hvals⟩
  case bool b => cases b <;> simp [classOf] at h
  all_goals simp [classOf] at h

end Value.IsJson

namespace Json

/-! ## Reading a text back from the front of a run -/

section Joined

variable {α : Type} (T : α → List Char → Prop) (R : α → α → Prop)

/-- The item `a`, written as `p`, is read back from any run of characters that starts with `p`
and does not go on with a digit: of the items written as `T` says, only one in relation `R` to
`a` starts such a run, and its text ends where `p` ends. -/
def ReadsBack (a : α) (p : List Char) : Prop :=
  ∀ b q r r', T b q → p ++ r = q ++ r' → NoDigitNext r → NoDigitNext r' → R a b ∧ r = r'

theorem intercalate_comma_cons (p : List Char) (ps : List (List Char)) :
    [','].intercalate (p :: ps) = p ++ ps.flatMap (',' :: ·) := by
  induction ps generalizing p with
  | nil => simp
  | cons q ps ih => rw [List.intercalate_cons_cons, ih, List.flatMap_cons, List.append_assoc]; rfl

theorem noDigitNext_items {close : Char} (hdigit : close.isDigit = false)
    (ps : List (List Char)) (r : List Char) : NoDigitNext (ps.flatMap (',' :: ·) ++ close :: r) := by
  cases ps with
  | nil => simpa [NoDigitNext] using hdigit
  | cons p ps => simp [NoDigitNext]

variable {T R} {close : Char} (hcomma : close ≠ ',') (hdigit : close.isDigit = false)

include hcomma hdigit in
/-- Items after the first, each behind a comma, are read back one by one up to the closing
character. -/
theorem items_readBack {as bs : List α} {ps qs : List (List Char)} {r r' : List Char}
    (has : List.Forall₂ (ReadsBack T R) as ps) (hbs : List.Forall₂ T bs qs)
    (h : ps.flatMap (',' :: ·) ++ close :: r = qs.flatMap (',' :: ·) ++ close :: r') :
    List.Forall₂ R as bs ∧ r = r' := by
  induction has generalizing bs qs with
  | nil =>
    cases hbs with
    | nil => exact ⟨.nil, by simpa using h⟩
    | cons _ _ => exact absurd (List.cons.inj (by simpa using h)).1 hcomma
  | cons ha _ ih =>
    cases hbs with
    | nil => exact absurd (List.cons.inj (by simpa using h)).1.symm hcomma
    | cons hb hbs =>
      simp only [List.flatMap_cons, List.cons_append, List.append_assoc, List.cons.injEq,
        true_and] at h
      obtain ⟨hab, hrest⟩ :=
        ha _ _ _ _ hb h (noDigitNext_items hdigit _ _) (noDigitNext_items hdigit _ _)
      obtain ⟨hall, rfl⟩ := ih hbs hrest
      exact ⟨.cons hab hall, rfl⟩

include hcomma hdigit in
/-- Items written one after another with commas, up to a closing character that starts no
item, are read back one by one. -/
theorem joined_readBack (hstart : ∀ b q, T b q → ∃ c u, q = c :: u ∧ c ≠ close)
    {as bs : List α} {ps qs : List (List Char)} {r r' : List Char}
    (has : List.Forall₂ (fun a p => T a p ∧ ReadsBack T R a p) as ps) (hbs : List.Forall₂ T bs qs)
    (h : [','].intercalate ps ++ close :: r = [','].intercalate qs ++ close :: r') :
    List.Forall₂ R as bs ∧ r = r' := by
  cases has with
  | nil =>
    cases hbs with
    | nil => exact ⟨.nil, by simpa using h⟩
    | cons hb _ =>
      obtain ⟨c, u, rfl, hc⟩ := hstart _ _ hb
      simp only [intercalate_comma_cons, List.intercalate_nil, List.nil_append, List.cons_append,
        List.append_assoc, List.cons.injEq] at h
      exact absurd h.1.symm hc
  | cons ha has =>
    cases hbs with
    | nil =>
      obtain ⟨c, u, rfl, hc⟩ := hstart _ _ ha.1
      simp only [intercalate_comma_cons, List.intercalate_nil, List.nil_append, List.cons_append,
        List.append_assoc, List.cons.injEq] at h
      exact absurd h.1 hc
    | cons hb hbs =>
      rw [intercalate_comma_cons, intercalate_comma_cons, List.append_assoc, List.append_assoc] at h
      obtain ⟨hab, hrest⟩ :=
        ha.2 _ _ _ _ hb h (noDigitNext_items hdigit _ _) (noDigitNext_items hdigit _ _)
      obtain ⟨hall, rfl⟩ := items_readBack hcomma hdigit (has.imp fun _ _ h => h.2) hbs hrest
      exact ⟨.cons hab hall, rfl⟩

end Joined

/-- `w` is JSON data, written as the characters `q`. -/
def Written (w : Value) (q : List Char) : Prop :=
  w.IsJson ∧ ∃ t, write fingerprintStyle w = .ok t ∧ t.toList = q

/-- An entry of a mapping of JSON data, written as its quoted key, a colon and its value. -/
def EntryWritten (kv : String × Value) (q : List Char) : Prop :=
  ∃ p, Written kv.2 p ∧ q = (quoteText true kv.1).toList ++ ':' :: p

/-- Two entries with one key and reordered values. -/
def SameEntry (a b : String × Value) : Prop := a.1 = b.1 ∧ a.2.Reordered b.2

theorem written_head {w : Value} {q : List Char} (h : Written w q) :
    ∃ c u, q = c :: u ∧ c ≠ ']' := by
  obtain ⟨hw, t, ht, rfl⟩ := h
  obtain ⟨c, u, hcu, hc⟩ := write_head hw ht
  refine ⟨c, u, hcu, ?_⟩
  rintro rfl
  have hclose : headClass ']' = 7 := by decide
  have hkind := w.classOf_le
  omega

theorem entryWritten_head {kv : String × Value} {q : List Char} (h : EntryWritten kv q) :
    ∃ c u, q = c :: u ∧ c ≠ '}' := by
  obtain ⟨p, -, rfl⟩ := h
  exact ⟨'"', _, by rw [toList_quoteText]; rfl, by decide⟩

theorem entry_readsBack {kv : String × Value} {p : List Char}
    (h : ReadsBack Written Value.Reordered kv.2 p) :
    ReadsBack EntryWritten SameEntry kv ((quoteText true kv.1).toList ++ ':' :: p) := by
  rintro ⟨k', w⟩ _ r r' ⟨q, hq, rfl⟩ htext hr hr'
  simp only [List.append_assoc, List.cons_append] at htext
  obtain ⟨hkey, hrest⟩ := quoteText_prefix_inj htext
  obtain ⟨hvw, rfl⟩ := h w q r r' hq (List.cons.inj hrest).2 hr hr'
  exact ⟨⟨hkey, hvw⟩, rfl⟩

end Json

/-- Entries that agree pairwise in their keys and reordered values, in some arrangement of each
mapping, make the two mappings reordered. -/
theorem Value.Reordered.of_entries {kvs kvs' ls ms : List (String × Value)} (hl : kvs.Perm ls)
    (hm : kvs'.Perm ms) (h : List.Forall₂ Json.SameEntry ls ms) :
    (Value.record kvs).Reordered (.record kvs') := by
  refine .dict (hl.map _) (hm.map _) ?_ ?_
  · simp only [List.map_map]
    exact List.map_eq_of_forall₂ (h.imp fun a b hab => by simp [hab.1])
  · simp only [List.map_map]
    exact List.forall₂_map_left_iff.2 (List.forall₂_map_right_iff.2 (h.imp fun _ _ hab => hab.2))

namespace Json

theorem rest_eq_of_write_eq {v : Value} {t t' : String} {r r' : List Char}
    (ht : write fingerprintStyle v = .ok t) (ht' : write fingerprintStyle v = .ok t')
    (h : t.toList ++ r = t'.toList ++ r') : r = r' := by
  cases ht.symm.trans ht'
  exact List.append_cancel_left h

/-- The text of JSON data is read back from the front of any run of characters that does not
go on with a digit. -/
theorem readsBack_of_isJson {v : Value} (hv : v.IsJson) :
    ∀ t, write fingerprintStyle v = .ok t → ReadsBack Written Value.Reordered v t.toList := by
  -- on the structure of the data; the value read back is of the kind of the first character
  induction hv with
  | null =>
    rintro t ht w _ r r' ⟨hw, t', ht', rfl⟩ htext - -
    obtain rfl := hw.eq_null (classOf_eq_of_append .null hw ht ht' htext).symm
    exact ⟨.null, rest_eq_of_write_eq ht ht' htext⟩
  | bool b =>
    rintro t ht w _ r r' ⟨hw, t', ht', rfl⟩ htext - -
    obtain rfl := hw.eq_bool (classOf_eq_of_append (.bool b) hw ht ht' htext).symm
    exact ⟨.bool b, rest_eq_of_write_eq ht ht' htext⟩
  | int hn =>
    rename_i n
    rintro t ht w _ r r' ⟨hw, t', ht', rfl⟩ htext hr hr'
    obtain ⟨m, rfl, hm⟩ := hw.exists_int (classOf_eq_of_append (.int hn) hw ht ht' htext).symm
    rw [write_int hn] at ht
    rw [write_int hm] at ht'
    cases ht
    cases ht'
    -- an integer is read back from its digits, as no digit follows them
    have hread := congrArg integer htext
    rw [integer_toString n hr, integer_toString m hr'] at hread
    obtain ⟨rfl, rfl⟩ := Prod.mk.inj (Option.some.inj hread)
    exact ⟨.int n, rfl⟩
  | str s =>
    rintro t ht w _ r r' ⟨hw, t', ht', rfl⟩ htext - -
    obtain ⟨s', rfl⟩ := hw.exists_str (classOf_eq_of_append (.str s) hw ht ht' htext).symm
    rw [write_str] at ht ht'
    cases ht
    cases ht'
    obtain ⟨rfl, rfl⟩ := quoteText_prefix_inj htext
    exact ⟨.str s, rfl⟩
  | list hxs ih =>
    rename_i xs
    rintro t ht w _ r r' ⟨hw, t', ht', rfl⟩ htext - -
    obtain ⟨ys, rfl, hys⟩ := hw.exists_list (classOf_eq_of_append (.list hxs) hw ht ht' htext).symm
    obtain ⟨parts, hparts, hxt⟩ := write_list_eq_ok ht
    obtain ⟨parts', hparts', hyt⟩ := write_list_eq_ok ht'
    rw [hxt, hyt] at htext
    simp only [List.cons_append, List.append_assoc, List.cons.injEq, true_and] at htext
    have has : List.Forall₂ (fun x p => Written x p ∧ ReadsBack Written Value.Reordered x p) xs
        (parts.map String.toList) :=
      List.forall₂_map_right_iff.2 (hparts.of_mem fun x hx p _ hp =>
        ⟨⟨hxs x hx, p, hp, rfl⟩, ih x hx p hp⟩)
    have hbs : List.Forall₂ Written ys (parts'.map String.toList) :=
      List.forall₂_map_right_iff.2 (hparts'.of_mem fun y hy p _ hp => ⟨hys y hy, p, hp, rfl⟩)
    obtain ⟨hall, rfl⟩ :=
      joined_readBack (by decide) (by decide) (fun _ _ hq => written_head hq) has hbs htext
    exact ⟨.list hall, rfl⟩
  | record hkeys hvals ih =>
    rename_i kvs
    rintro t ht w _ r r' ⟨hw, t', ht', rfl⟩ htext - -
    obtain ⟨kvs', rfl, -, hvals'⟩ :=
      hw.exists_record (classOf_eq_of_append (.record hkeys hvals) hw ht ht' htext).symm
    obtain ⟨parts, hparts, hxt⟩ := write_record_eq_ok ht
    obtain ⟨parts', hparts', hyt⟩ := write_record_eq_ok ht'
    rw [hxt, hyt] at htext
    simp only [List.cons_append, List.append_assoc, List.cons.injEq, true_and] at htext
    have has : List.Forall₂ (fun kv p => EntryWritten kv p ∧ ReadsBack EntryWritten SameEntry kv p)
        (kvs.mergeSort keyFirst) (parts.map String.toList) := by
      refine List.forall₂_map_right_iff.2 (hparts.of_mem fun kv hkv p _ hp => ?_)
      obtain ⟨tv, htv, hp⟩ := hp
      have hmem := List.mem_mergeSort.1 hkv
      rw [hp]
      exact ⟨⟨tv.toList, ⟨hvals kv hmem, tv, htv, rfl⟩, rfl⟩,
        entry_readsBack (ih kv hmem tv htv)⟩
    have hbs :
        List.Forall₂ EntryWritten (kvs'.mergeSort keyFirst) (parts'.map String.toList) := by
      refine List.forall₂_map_right_iff.2 (hparts'.of_mem fun kv hkv p _ hp => ?_)
      obtain ⟨tv, htv, hp⟩ := hp
      rw [hp]
      exact ⟨tv.toList, ⟨hvals' kv (List.mem_mergeSort.1 hkv), tv, htv, rfl⟩, rfl⟩
    obtain ⟨hall, rfl⟩ :=
      joined_readBack (by decide) (by decide) (fun _ _ hq => entryWritten_head hq) has hbs htext
    exact ⟨.of_entries (List.mergeSort_perm kvs keyFirst).symm
      (List.mergeSort_perm kvs' keyFirst).symm hall, rfl⟩

/-! ## Reordered values are written alike -/

theorem map_pair_eq_of_forall₂ {β γ : Type} {φ : Value → γ} {ls ms : List (β × Value)}
    (hk : ls.map Prod.fst = ms.map Prod.fst)
    (hv : List.Forall₂ (fun x y => φ x = φ y) (ls.map Prod.snd) (ms.map Prod.snd)) :
    ls.map (fun kv => (kv.1, φ kv.2)) = ms.map (fun kv => (kv.1, φ kv.2)) := by
  induction ls generalizing ms with
  | nil =>
    cases ms with
    | nil => rfl
    | cons _ _ => simp at hk
  | cons a ls ih =>
    cases ms with
    | nil => simp at hk
    | cons b ms =>
      simp only [List.map_cons, List.cons.injEq] at hk hv ⊢
      cases hv with
      | cons hab hrest => exact ⟨by rw [hk.1, hab], ih hk.2 hrest⟩

/-- The entries of two reordered mappings, with their values written, are arrangements of each
other. -/
theorem writtenEntries_perm {kvs kvs' : List (String × Value)} {ls ms : List (Value × Value)}
    (hl : (kvs.map fun kv => (Value.str kv.1, kv.2)).Perm ls)
    (hm : (kvs'.map fun kv => (Value.str kv.1, kv.2)).Perm ms)
    (hkeys : ls.map Prod.fst = ms.map Prod.fst)
    (hvals : List.Forall₂ (fun x y => write fingerprintStyle x = write fingerprintStyle y)
      (ls.map Prod.snd) (ms.map Prod.snd)) :
    (kvs.map writtenEntry).Perm (kvs'.map writtenEntry) := by
  have hinj : Function.Injective fun e : String × Except Error String => (Value.str e.1, e.2) := by
    rintro ⟨k, e⟩ ⟨k', e'⟩ h
    simp only [Prod.mk.injEq, Value.str.injEq] at h
    rw [h.1, h.2]
  have hview : ∀ l : List (String × Value),
      (l.map writtenEntry).map (fun e => (Value.str e.1, e.2)) =
        (l.map fun kv => (Value.str kv.1, kv.2)).map fun kv => (kv.1, write fingerprintStyle kv.2) := by
    intro l
    simp [writtenEntry]
  refine (List.map_perm_map_iff hinj).1 ?_
  rw [hview, hview]
  refine (hl.map _).trans ?_
  rw [map_pair_eq_of_forall₂ hkeys hvals]
  exact (hm.map _).symm

/-- Reordered JSON data are written alike. -/
theorem write_eq_of_reordered {v w : Value} (hv : v.IsJson) (hw : w.IsJson) (h : v.Reordered w) :
    write fingerprintStyle v = write fingerprintStyle w := by
  induction hv generalizing w with
  | null => cases h; rfl
  | bool b => cases h; rfl
  | int _ => cases h; rfl
  | str s => cases h; rfl
  | list hxs ih =>
    cases h with
    | list hall =>
      cases hw with
      | list hys =>
        rw [write_list, write_list, Except.mapM_eq_of_forall₂
          (hall.of_mem fun x hx y hy hxy => ih x hx (hys y hy) hxy)]
  | record hkeys hvals ih =>
    rename_i kvs
    cases h with
    | dict hl hm hkm hvm =>
      cases hw with
      | record _ hvals' =>
        rename_i kvs' _
        change write fingerprintStyle (.record kvs) = write fingerprintStyle (.record kvs')
        have hvm' :
            List.Forall₂ (fun x y => write fingerprintStyle x = write fingerprintStyle y) _ _ :=
          hvm.of_mem fun x hx y hy hxy => by
            rw [← (hl.map Prod.snd).mem_iff, List.map_map] at hx
            rw [← (hm.map Prod.snd).mem_iff, List.map_map] at hy
            obtain ⟨kv, hkv, rfl⟩ := List.mem_map.1 hx
            obtain ⟨kv', hkv', rfl⟩ := List.mem_map.1 hy
            exact ih kv hkv (hvals' kv' hkv') hxy
        have hnodup : ((kvs.map writtenEntry).map Prod.fst).Nodup := by
          simpa [List.map_map, Function.comp_def, writtenEntry] using hkeys
        rw [write_record, write_record, map_writtenEntry_mergeSort, map_writtenEntry_mergeSort,
          mergeSort_keyFirst_eq_of_perm hnodup (writtenEntries_perm hl hm hkm hvm')]

/-- On JSON data, two texts are equal exactly when the data are reordered. -/
theorem text_eq_iff_reordered {v w : Value} (hv : v.IsJson) (hw : w.IsJson) {t t' : String}
    (ht : write fingerprintStyle v = .ok t) (ht' : write fingerprintStyle w = .ok t') :
    t = t' ↔ v.Reordered w := by
  constructor
  · rintro rfl
    have hend : NoDigitNext [] := fun _ hc => nomatch hc
    exact (readsBack_of_isJson hv t ht w t.toList [] [] ⟨hw, t, ht', rfl⟩ rfl hend hend).1
  · intro h
    have hsame := write_eq_of_reordered hv hw h
    rw [ht, ht'] at hsame
    exact Except.ok.inj hsame

end Json

/-- Two configurations of JSON data have texts, and fingerprints, that are equal exactly when the
configurations are the same up to the order of keys at every depth, as long as the digest tells
their two texts apart. -/
theorem configHash_canonical (c₁ c₂ : List (String × Value)) (h₁ : (Value.record c₁).IsJson)
    (h₂ : (Value.record c₂).IsJson)
    (hdigest : ∀ t₁ t₂, Json.write fingerprintStyle (.record c₁) = .ok t₁ →
      Json.write fingerprintStyle (.record c₂) = .ok t₂ →
      Digest.hexDigest t₁ = Digest.hexDigest t₂ → t₁ = t₂) :
    ∃ t₁ t₂, Json.write fingerprintStyle (.record c₁) = .ok t₁ ∧
      Json.write fingerprintStyle (.record c₂) = .ok t₂ ∧
      (t₁ = t₂ ↔ (Value.record c₁).Reordered (.record c₂)) ∧
      configHash c₁ = .ok (Digest.hexDigest t₁) ∧
      configHash c₂ = .ok (Digest.hexDigest t₂) ∧
      (Digest.hexDigest t₁ = Digest.hexDigest t₂ ↔
        (Value.record c₁).Reordered (.record c₂)) := by
  obtain ⟨t₁, ht₁⟩ := Json.write_ok fingerprintStyle h₁
  obtain ⟨t₂, ht₂⟩ := Json.write_ok fingerprintStyle h₂
  have htext := Json.text_eq_iff_reordered h₁ h₂ ht₁ ht₂
  have hhash : ∀ c t, Json.write fingerprintStyle (.record c) = .ok t →
      configHash c = .ok (Digest.hexDigest t) := by
    intro c t ht
    rw [configHash, ht]
    rfl
  refine ⟨t₁, t₂, ht₁, ht₂, htext, hhash c₁ t₁ ht₁, hhash c₂ t₂ ht₂, ?_⟩
  rw [← htext]
  exact ⟨hdigest t₁ t₂ ht₁ ht₂, congrArg Digest.hexDigest⟩

/-- `{"a": 1, "b": [1, 2]}` and `{"b": [1, 2], "a": 1}` have one fingerprint. -/
theorem configHash_ignores_key_order :
    let c₁ : List (String × Value) := [("a", .int 1), ("b", .list [.int 1, .int 2])]
    let c₂ : List (String × Value) := [("b", .list [.int 1, .int 2]), ("a", .int 1)]
    ∃ d, configHash c₁ = .ok d ∧ configHash c₂ = .ok d := by
  intro c₁ c₂
  have hsmall : ∀ n : Int, n = 1 ∨ n = 2 → (Value.int n).IsJson := by
    rintro n (rfl | rfl) <;> exact .int (by decide)
  have hlist : (Value.list [.int 1, .int 2]).IsJson := by
    refine .list fun x hx => ?_
    simp only [List.mem_cons, List.not_mem_nil, or_false] at hx
    rcases hx with rfl | rfl
    exacts [hsmall 1 (.inl rfl), hsmall 2 (.inr rfl)]
  have h₁ : (Value.record c₁).IsJson := by
    refine .record (by decide) fun kv hkv => ?_
    simp only [c₁, List.mem_cons, List.not_mem_nil, or_false] at hkv
    rcases hkv with rfl | rfl
    exacts [hsmall 1 (.inl rfl), hlist]
  have h₂ : (Value.record c₂).IsJson := by
    refine .record (by decide) fun kv hkv => ?_
    simp only [c₂, List.mem_cons, List.not_mem_nil, or_false] at hkv
    rcases hkv with rfl | rfl
    exacts [hlist, hsmall 1 (.inl rfl)]
  have hre : (Value.record c₁).Reordered (.record c₂) :=
    .dict (List.Perm.refl _) (List.Perm.swap _ _ _) rfl
      (.cons (.int 1) (.cons (.list (.cons (.int 1) (.cons (.int 2) .nil))) .nil))
  obtain ⟨t₁, t₂, -, -, -, hh₁, hh₂, hiff⟩ :=
    configHash_canonical c₁ c₂ h₁ h₂ fun t₁ t₂ e₁ e₂ _ => by
      have hsame := Json.write_eq_of_reordered h₁ h₂ hre
      rw [e₁, e₂] at hsame
      exact Except.ok.inj hsame
  exact ⟨_, hh₁, hh₂.trans (congrArg Except.ok (hiff.2 hre).symm)⟩

/-- A configuration that holds an integer of more than `Decimal.maxDigits` digits has no
fingerprint: the integer has no JSON text. -/
theorem configHash_long_integer :
    ∃ e, configHash [("n", .int (Int.ofNat (Nat.pow 10 Decimal.maxDigits)))] = .error e := by
  -- ten to the power `Decimal.maxDigits` has one digit more than may be written
  have hlong : Decimal.maxDigits <
      (Nat.toDigits 10 (Int.ofNat (Nat.pow 10 Decimal.maxDigits)).natAbs).length := by
    rw [Int.natAbs_ofNat']
    refine Nat.lt_of_not_le fun h => ?_
    have hless := (Nat.length_toDigits_le_iff (by decide) (by decide)).1 h
    simp at hless
  obtain ⟨e, he⟩ : ∃ e, Json.write fingerprintStyle
      (.int (Int.ofNat (Nat.pow 10 Decimal.maxDigits))) = .error e :=
    ⟨_, by rw [Json.write, Json.intText, if_pos hlong]⟩
  refine ⟨e, ?_⟩
  rw [configHash, Json.write_record, List.mergeSort_singleton, List.map_singleton,
    Json.writtenEntry, he]
  rfl

/-! ## Requests with distinct fingerprints -/

namespace Daemon

theorem config_keys_nodup (format : SourceFormat) (fields : CompilerFields) :
    ((("format", Value.str format.name) :: fields.entries).map Prod.fst).Nodup := by
  rcases fields with ⟨_, shape, development, preset, enable⟩
  cases shape <;> cases development <;> cases preset <;> cases enable <;>
    simp [CompilerFields.entries]

theorem isJson_config (format : SourceFormat) (fields : CompilerFields) :
    (Value.record (("format", .str format.name) :: fields.entries)).IsJson := by
  refine .record (config_keys_nodup format fields) fun kv hkv => ?_
  rcases mem_config hkv with ⟨s, hs⟩ | ⟨b, hb⟩ | ⟨l, hl⟩
  · exact hs ▸ .str s
  · exact hb ▸ .bool b
  · refine hl ▸ .list fun x hx => ?_
    obtain ⟨s, -, rfl⟩ := List.mem_map.1 hx
    exact .str s

/-- A value of a request's configuration is reordered to itself only. -/
theorem eq_of_reordered_config {format : SourceFormat} {fields : CompilerFields}
    {kv : String × Value} (h : kv ∈ ("format", Value.str format.name) :: fields.entries)
    {w : Value} (hw : kv.2.Reordered w) : w = kv.2 := by
  rcases mem_config h with ⟨s, hs⟩ | ⟨b, hb⟩ | ⟨l, hl⟩
  · rw [hs] at hw ⊢
    cases hw
    rfl
  · rw [hb] at hw ⊢
    cases hw
    rfl
  · rw [hl] at hw ⊢
    cases hw with
    | list hxs =>
      have heq : List.Forall₂ (· = ·) _ _ := hxs.of_mem fun a ha b _ hab => by
        obtain ⟨s, -, rfl⟩ := List.mem_map.1 ha
        cases hab
        rfl
      rw [List.forall₂_eq_eq_eq] at heq
      rw [heq]

/-- Records whose values are reordered only to themselves are reordered only when they hold the
same entries, in some order. -/
theorem perm_of_reordered {c₁ c₂ : List (String × Value)}
    (h : (Value.record c₁).Reordered (.record c₂))
    (hrigid : ∀ kv ∈ c₁, ∀ w, kv.2.Reordered w → w = kv.2) : c₁.Perm c₂ := by
  have hinj : Function.Injective fun kv : String × Value => (Value.str kv.1, kv.2) := by
    rintro ⟨k, v⟩ ⟨k', v'⟩ hkv
    simp only [Prod.mk.injEq, Value.str.injEq] at hkv
    rw [hkv.1, hkv.2]
  unfold Value.record at h
  cases h with
  | dict hl hm hkeys hvals =>
    rename_i ls ms
    have hsnd : ls.map Prod.snd = ms.map Prod.snd := by
      rw [← List.forall₂_eq_eq_eq]
      refine hvals.of_mem fun a ha b _ hab => ?_
      obtain ⟨⟨k, v⟩, hkv, rfl⟩ := List.mem_map.1 ha
      obtain ⟨⟨k', v'⟩, hmem, heq⟩ := List.mem_map.1 (hl.mem_iff.2 hkv)
      cases heq
      exact (hrigid _ hmem b hab).symm
    have hls : ls = ms := by
      rw [← List.zip_unzip ls, ← List.zip_unzip ms, List.unzip_fst, List.unzip_snd,
        List.unzip_fst, List.unzip_snd, hkeys, hsnd]
    subst hls
    exact (List.map_perm_map_iff hinj).1 (hl.trans hm.symm)

/-- Requests whose configurations are reordered have the same format and set the same compiler
fields. -/
theorem config_eq_of_reordered {p q : SourceFormat × CompilerFields}
    (h : (Value.record (("format", .str p.1.name) :: p.2.entries)).Reordered
      (.record (("format", .str q.1.name) :: q.2.entries))) :
    p.1 = q.1 ∧ p.2.entries = q.2.entries := by
  have hperm := perm_of_reordered h fun kv hkv _ hw => eq_of_reordered_config hkv hw
  have hformat : p.1 = q.1 := by
    have hf := hperm.filter (·.1 == "format")
    simp [CompilerFields.entries, List.filter_append, CompilerFields.toList_filter_key] at hf
    exact SourceFormat.name_injective hf
  rw [hformat] at hperm
  obtain ⟨hs, hd, hp, he⟩ := CompilerFields.eq_of_entries_perm hperm.cons_inv
  refine ⟨hformat, ?_⟩
  simp only [CompilerFields.entries, hs, hd, hp, he]

/-- The configurations served have distinct fingerprints as soon as the digest tells their JSON
texts apart. -/
theorem fingerprintsDistinct_of_injOn {cs : List (SourceFormat × CompilerFields)}
    (hdigest : Set.InjOn Digest.hexDigest {t | ∃ p ∈ cs, Json.write fingerprintStyle
      (.record (("format", .str p.1.name) :: p.2.entries)) = .ok t}) :
    FingerprintsDistinct cs := by
  intro p hp q hq h hph hqh
  obtain ⟨t₁, ht₁⟩ := Json.write_ok fingerprintStyle (isJson_config p.1 p.2)
  obtain ⟨t₂, ht₂⟩ := Json.write_ok fingerprintStyle (isJson_config q.1 q.2)
  have hd₁ : Digest.hexDigest t₁ = h := Except.ok.inj ((fingerprintOf_of_write ht₁).symm.trans hph)
  have hd₂ : Digest.hexDigest t₂ = h := Except.ok.inj ((fingerprintOf_of_write ht₂).symm.trans hqh)
  have htext : t₁ = t₂ := hdigest ⟨p, hp, ht₁⟩ ⟨q, hq, ht₂⟩ (hd₁.trans hd₂.symm)
  exact config_eq_of_reordered
    ((Json.text_eq_iff_reordered (isJson_config _ _) (isJson_config _ _) ht₁ ht₂).1 htext)

end Daemon

end Manuscript
