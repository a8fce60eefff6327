import Manuscript.Settings.Config
import Manuscript.Proofs.Include.Run
import Manuscript.Proofs.Text.Lowering

/-!
# Layered settings

Checking a list of entries (`ofEntries`) treats every field apart: with distinct keys, it
succeeds with `s` exactly when each field's entry, checked, gives `s`'s value of that field, and
a field without an entry keeps its default (`ofEntries_eq_ok_iff`). Checking a value that a
check produced gives it back (`check_check`); for the environment this is trimming and lowering
twice.

Loading the configuration checks twice: first the environment's entries alone, then those
fields, as the first check stored them, laid over the file's values. Since a stored value passes
its check unchanged, the two checks together give each field the environment's value, else the
file's, else its default (`Layered`, `load_twice_eq_ok_iff`). On a world, `loadConfig_layers`
puts this together with what the file gives: nothing when it cannot be opened, its known
top-level keys when it holds a mapping, and nothing when its text is not YAML. Text that is not
UTF-8, or YAML whose values cannot be built, is an error of the load.
-/

namespace Manuscript

namespace Settings

/-! ## Checking one field -/

/-- The value that field `f` holds when given `v`, or `none` when `v` is not of the field's
kind. -/
def check (f : String) (v : Value) : Option Value :=
  (({} : Settings).set? f v).map (·.field f)

/-- One step of checking entries: the field is set, or its key is recorded as failing. -/
def checkEntry (acc : Settings × List String) (kv : String × Value) : Settings × List String :=
  match acc.1.set? kv.1 kv.2 with
  | some s => (s, acc.2)
  | none => (acc.1, kv.1 :: acc.2)

theorem ofEntries_eq (entries : List (String × Value)) :
    ofEntries entries =
      if (entries.foldl checkEntry ({}, [])).2.isEmpty then
        .ok (entries.foldl checkEntry ({}, [])).1
      else .error (Lax.sortFields (entries.foldl checkEntry ({}, [])).2) := rfl

theorem mem_fieldNames {g : String} :
    g ∈ fieldNames ↔ g = "environment" ∨ g = "log_level" ∨ g = "default_group" ∨ g = "host" ∨
      g = "port" ∨ g = "cors_origins" := by
  simp [fieldNames]

/-- Setting a field changes that field alone, to its checked value. -/
theorem field_set? {s s' : Settings} {f : String} {v : Value} (h : s.set? f v = some s')
    {g : String} (hg : g ∈ fieldNames) :
    some (s'.field g) = if g = f then check f v else some (s.field g) := by
  unfold set? at h
  split at h
  case h_5 =>
    split at h
    · rename_i n hn
      split at h
      · rename_i hrange
        cases h
        rcases mem_fieldNames.1 hg with rfl | rfl | rfl | rfl | rfl | rfl <;>
          simp [field, check, set?, hn, hrange]
      · cases h
    · cases h
  case h_7 =>
    cases h
    have hgf : g ≠ f := by
      rintro rfl
      rcases mem_fieldNames.1 hg with h | h | h | h | h | h <;> simp_all
    rw [if_neg hgf]
  all_goals
    obtain ⟨t, ht, rfl⟩ := Option.map_eq_some_iff.1 h
    rcases mem_fieldNames.1 hg with rfl | rfl | rfl | rfl | rfl | rfl <;>
      simp [field, check, set?, ht]

theorem set?_isSome (s : Settings) (f : String) (v : Value) :
    (s.set? f v).isSome = (check f v).isSome := by
  unfold check set?
  split
  case h_5 =>
    cases Lax.integer? v with
    | none => rfl
    | some n => by_cases hn : 1 ≤ n ∧ n ≤ 65535 <;> simp [hn]
  all_goals simp

theorem field_of_not_mem {f : String} (hf : f ∉ fieldNames) (s : Settings) : s.field f = .null := by
  unfold field
  split <;> simp_all [fieldNames]

/-- A key that names no field is accepted and stores nothing. -/
theorem check_of_not_mem {f : String} (hf : f ∉ fieldNames) (v : Value) :
    check f v = some .null := by
  unfold check set?
  split <;> simp_all [fieldNames, field_of_not_mem]

/-- Settings with the same value in every field are the same. -/
theorem ext_field {s t : Settings} (h : ∀ g ∈ fieldNames, s.field g = t.field g) : s = t := by
  obtain ⟨e, l, d, o, p, c⟩ := s
  obtain ⟨e', l', d', o', p', c'⟩ := t
  have he := h "environment" (by simp [fieldNames])
  have hl := h "log_level" (by simp [fieldNames])
  have hd := h "default_group" (by simp [fieldNames])
  have ho := h "host" (by simp [fieldNames])
  have hp := h "port" (by simp [fieldNames])
  have hc := h "cors_origins" (by simp [fieldNames])
  simp only [field, Value.str.injEq, Value.int.injEq, Int.ofNat_inj, Value.list.injEq,
    List.map_inj_right fun _ _ h => Value.str.inj h] at he hl hd ho hp hc
  subst he hl hd ho hp hc
  rfl

theorem mapM_text_str (o : List String) : (o.map Value.str).mapM Lax.text? = some o := by
  induction o with
  | nil => rfl
  | cons t rest ih => simp [List.mapM_cons, Lax.text?, ih]

/-- A value that a check produced passes the same check unchanged: the environment, trimmed and
lowered once, is trimmed and lowered already. -/
theorem check_check {f : String} {v x : Value} (h : check f v = some x) : check f x = some x := by
  by_cases hf : f ∈ fieldNames
  · rcases mem_fieldNames.1 hf with rfl | rfl | rfl | rfl | rfl | rfl
    all_goals simp only [check, set?, field, Option.map_map, Function.comp_def,
      Option.map_eq_some_iff] at h ⊢
    · -- the environment: trimmed and lowered twice is trimmed and lowered once
      obtain ⟨t, -, rfl⟩ := h
      exact ⟨_, rfl, by rw [Text.toLower_trimBlank_idem]⟩
    · obtain ⟨t, -, rfl⟩ := h
      exact ⟨t, rfl, rfl⟩
    · obtain ⟨t, -, rfl⟩ := h
      exact ⟨t, rfl, rfl⟩
    · obtain ⟨t, -, rfl⟩ := h
      exact ⟨t, rfl, rfl⟩
    · -- the port: a stored port is an integer in range
      obtain ⟨a, ha, rfl⟩ := h
      split at ha
      · rename_i n hn
        split at ha
        · rename_i hrange
          cases ha
          simp only [Bool.and_eq_true, decide_eq_true_eq] at hrange
          refine ⟨{ port := n.toNat }, ?_, rfl⟩
          simp only [Lax.integer?]
          rw [if_pos (by simp only [Bool.and_eq_true, decide_eq_true_eq]; omega)]
          simp only [Int.toNat_natCast]
        · cases ha
      · cases ha
    · obtain ⟨o, -, rfl⟩ := h
      exact ⟨o, mapM_text_str o, rfl⟩
  · rw [check_of_not_mem hf] at h
    cases h
    exact check_of_not_mem hf _

/-! ## Checking entries -/

/-- What field `g` holds after checking `entries` over `base`: the checked value of its entry,
or the base's value when no entry names it. -/
def stored (entries : List (String × Value)) (base : Settings) (g : String) : Option Value :=
  (entries.lookup g).elim (some (base.field g)) (check g)

/-- Checking entries records a failure exactly when one of them fails its check. -/
theorem foldl_checkEntry_failed (entries : List (String × Value)) (s₀ : Settings)
    (fs₀ : List String) :
    (entries.foldl checkEntry (s₀, fs₀)).2.isEmpty =
      (fs₀.isEmpty && entries.all fun kv => (check kv.1 kv.2).isSome) := by
  induction entries generalizing s₀ fs₀ with
  | nil => simp
  | cons kv rest ih =>
    rw [List.foldl_cons, checkEntry]
    split
    · rename_i s hs
      have hok : (check kv.1 kv.2).isSome = true := by rw [← set?_isSome s₀, hs]; rfl
      rw [ih, List.all_cons, hok, Bool.true_and]
    · rename_i hs
      have hfail : (check kv.1 kv.2).isSome = false := by rw [← set?_isSome s₀, hs]; rfl
      rw [ih, List.all_cons, hfail]
      simp

theorem lookup_cons_of_ne {k g : String} (h : g ≠ k) (v : Value) (rest : List (String × Value)) :
    ((k, v) :: rest).lookup g = rest.lookup g := by
  rw [List.lookup_cons, beq_eq_false_iff_ne.2 h]

theorem lookup_eq_none_of_not_mem {g : String} {l : List (String × Value)}
    (h : g ∉ l.map (·.1)) : l.lookup g = none :=
  List.lookup_eq_none_iff.2 fun p hp => bne_iff_ne.2 fun he => h (List.mem_map.2 ⟨p, hp, he.symm⟩)

/-- With distinct keys, every entry is what looking up its key finds. -/
theorem lookup_of_mem {kv : String × Value} {l : List (String × Value)}
    (hkeys : (l.map (·.1)).Nodup) (h : kv ∈ l) : l.lookup kv.1 = some kv.2 := by
  induction l with
  | nil => simp at h
  | cons kv' rest ih =>
    obtain ⟨k, v⟩ := kv'
    rw [List.map_cons, List.nodup_cons] at hkeys
    rcases List.mem_cons.1 h with rfl | h
    · exact List.lookup_cons_self
    · -- the entry is in the rest, whose keys do not include the first one
      have hne : kv.1 ≠ k := fun he => hkeys.1 (List.mem_map.2 ⟨kv, h, he⟩)
      rw [lookup_cons_of_ne hne, ih hkeys.2 h]

/-- When every entry passes, checking entries with distinct keys stores in each field what
`stored` says. -/
theorem foldl_checkEntry_field (entries : List (String × Value)) (s₀ : Settings)
    (fs₀ : List String) (hkeys : (entries.map (·.1)).Nodup)
    (hok : ∀ kv ∈ entries, (check kv.1 kv.2).isSome) {g : String} (hg : g ∈ fieldNames) :
    some ((entries.foldl checkEntry (s₀, fs₀)).1.field g) = stored entries s₀ g := by
  induction entries generalizing s₀ with
  | nil => rfl
  | cons kv rest ih =>
    obtain ⟨k, v⟩ := kv
    rw [List.map_cons, List.nodup_cons] at hkeys
    obtain ⟨s, hs⟩ := Option.isSome_iff_exists.1
      ((set?_isSome s₀ k v).trans (hok (k, v) List.mem_cons_self))
    have hstep : checkEntry (s₀, fs₀) (k, v) = (s, fs₀) := by
      rw [checkEntry]
      simp only [hs]
    rw [List.foldl_cons, hstep, ih s hkeys.2 fun kv h => hok kv (List.mem_cons_of_mem _ h),
      stored, stored]
    have hset := field_set? hs hg
    by_cases hgk : g = k
    · -- the first entry names `g`, and the rest does not
      subst hgk
      rw [lookup_eq_none_of_not_mem hkeys.1, List.lookup_cons_self]
      simpa using hset
    · rw [lookup_cons_of_ne hgk]
      cases rest.lookup g with
      | none => simpa [hgk] using hset
      | some v' => rfl

/-- Checking entries with distinct keys succeeds with `s` exactly when every field holds what its
entry, checked, gives, or its default when no entry names it. -/
theorem ofEntries_eq_ok_iff {entries : List (String × Value)}
    (hkeys : (entries.map (·.1)).Nodup) {s : Settings} :
    ofEntries entries = .ok s ↔ ∀ g ∈ fieldNames, stored entries {} g = some (s.field g) := by
  have hfailed := foldl_checkEntry_failed entries {} []
  rw [ofEntries_eq]
  constructor
  · intro h
    split at h
    · rename_i hempty
      cases h
      intro g hg
      have hok : ∀ kv ∈ entries, (check kv.1 kv.2).isSome := by
        simpa [hempty] using hfailed.symm
      exact (foldl_checkEntry_field entries {} [] hkeys hok hg).symm
    · cases h
  · intro h
    -- every entry passes: one that names a field gives that field's value, another stores nothing
    have hok : ∀ kv ∈ entries, (check kv.1 kv.2).isSome := by
      intro kv hkv
      by_cases hf : kv.1 ∈ fieldNames
      · have := h kv.1 hf
        rw [stored, lookup_of_mem hkeys hkv, Option.elim_some] at this
        rw [this]
        rfl
      · rw [check_of_not_mem hf]
        rfl
    have hempty : (entries.foldl checkEntry ({}, [])).2.isEmpty = true := by
      rw [hfailed]
      simpa using hok
    rw [if_pos hempty, ext_field fun g hg => Option.some_inj.1
      ((foldl_checkEntry_field entries {} [] hkeys hok hg).trans (h g hg))]

/-- Checking entries that fail is failing on one of them. -/
theorem exists_failing_of_ofEntries_error {entries : List (String × Value)} {fs : List String}
    (h : ofEntries entries = .error fs) : ∃ kv ∈ entries, check kv.1 kv.2 = none := by
  rw [ofEntries_eq] at h
  split at h
  · cases h
  · rename_i hfail
    rw [foldl_checkEntry_failed] at hfail
    simp only [List.isEmpty_nil, Bool.true_and, List.all_eq_true, not_forall] at hfail
    obtain ⟨kv, hkv, hnone⟩ := hfail
    exact ⟨kv, hkv, by simpa using hnone⟩

/-! ## Layers -/

section Pairs

variable (F : String → Option Value)

theorem keys_filterMap_pairs_sublist (fs : List String) :
    ((fs.filterMap fun f => (F f).map fun v => (f, v)).map (·.1)).Sublist fs := by
  induction fs with
  | nil => exact List.Sublist.slnil
  | cons f rest ih =>
    rw [List.filterMap_cons]
    cases F f with
    | none => exact ih.cons f
    | some v => exact ih.cons_cons f

theorem lookup_filterMap_pairs {fs : List String} (hfs : fs.Nodup) {g : String} (hg : g ∈ fs) :
    (fs.filterMap fun f => (F f).map fun v => (f, v)).lookup g = F g := by
  induction fs with
  | nil => simp at hg
  | cons f rest ih =>
    rw [List.nodup_cons] at hfs
    rw [List.filterMap_cons]
    by_cases hgf : g = f
    · -- `g` is the first key, and the rest names it nowhere
      subst hgf
      have hrest : g ∉ (rest.filterMap fun f => (F f).map fun v => (f, v)).map (·.1) :=
        fun h => hfs.1 ((keys_filterMap_pairs_sublist F rest).subset h)
      cases hF : F g with
      | none => exact lookup_eq_none_of_not_mem hrest
      | some v => exact List.lookup_cons_self
    · have hrest : g ∈ rest := (List.mem_cons.1 hg).resolve_left hgf
      cases F f with
      | none => exact ih hfs.2 hrest
      | some v =>
        show List.lookup g ((f, v) :: _) = F g
        rw [lookup_cons_of_ne hgf, ih hfs.2 hrest]

end Pairs

theorem fieldNames_nodup : fieldNames.Nodup := by
  decide

theorem overlay_keys_nodup (top bottom : List (String × Value)) :
    ((overlay top bottom).map (·.1)).Nodup :=
  fieldNames_nodup.sublist (keys_filterMap_pairs_sublist _ fieldNames)

theorem mem_fieldNames_of_overlay {top bottom : List (String × Value)} {kv : String × Value}
    (h : kv ∈ overlay top bottom) : kv.1 ∈ fieldNames :=
  (keys_filterMap_pairs_sublist _ fieldNames).subset (List.mem_map_of_mem h)

theorem lookup_overlay (top bottom : List (String × Value)) {g : String} (hg : g ∈ fieldNames) :
    (overlay top bottom).lookup g = (top.lookup g).or (bottom.lookup g) :=
  lookup_filterMap_pairs _ fieldNames_nodup hg

/-- Field `f` holds `x` as the layers say: the checked value the environment gives it, else the
checked value the file gives it, else its default. -/
def Layered (env file : List (String × Value)) (f : String) (x : Value) : Prop :=
  (∃ v, env.lookup f = some v ∧ check f v = some x) ∨
    (env.lookup f = none ∧ ∃ v, file.lookup f = some v ∧ check f v = some x) ∨
    (env.lookup f = none ∧ file.lookup f = none ∧ x = ({} : Settings).field f)

theorem stored_overlay_iff {env file : List (String × Value)} {g : String} (hg : g ∈ fieldNames)
    {x : Value} : stored (overlay env file) {} g = some x ↔ Layered env file g x := by
  rw [stored, lookup_overlay env file hg, Layered]
  cases henv : env.lookup g with
  | some v => simp
  | none =>
    cases hfile : file.lookup g with
    | some v => simp
    | none => simp [eq_comm]

/-- Checking the environment's entries laid over the file's succeeds with `s` exactly when every
field holds what the layers give it. -/
theorem ofEntries_overlay_eq_ok_iff {env file : List (String × Value)} {s : Settings} :
    ofEntries (overlay env file) = .ok s ↔ ∀ f ∈ fieldNames, Layered env file f (s.field f) := by
  rw [ofEntries_eq_ok_iff (overlay_keys_nodup env file)]
  exact forall₂_congr fun _ hf => stored_overlay_iff hf

theorem mem_keys_iff {l : List (String × Value)} {g : String} :
    g ∈ l.map (·.1) ↔ (l.lookup g).isSome := by
  rw [List.lookup_isSome_iff, List.mem_map]
  constructor
  · rintro ⟨p, hp, rfl⟩
    exact ⟨p, hp, beq_self_eq_true _⟩
  · rintro ⟨p, hp, he⟩
    exact ⟨p, hp, (beq_iff_eq.1 he).symm⟩

theorem lookup_map_pairs (keys : List String) (F : String → Value) (g : String) :
    (keys.map fun f => (f, F f)).lookup g = if g ∈ keys then some (F g) else none := by
  induction keys with
  | nil => simp
  | cons k ks ih =>
    by_cases hgk : g = k
    · subst hgk
      simp
    · rw [List.map_cons, lookup_cons_of_ne hgk, ih]
      simp [hgk]

/-- The second check of loading gives, field by field, what checking the environment's entries
over the file's gives: a field the environment set comes back with the value the first check
stored, which passes its check unchanged, and any other field comes from the file. -/
theorem stored_rechecked {env file : List (String × Value)} {s₁ : Settings}
    (h₁ : ofEntries (overlay [] env) = .ok s₁) {g : String} (hg : g ∈ fieldNames) :
    stored (overlay ((((overlay [] env).map (·.1)).map fun f => (f, s₁.field f)) ++ file) env)
        {} g =
      stored (overlay env file) {} g := by
  have hfirst := (ofEntries_eq_ok_iff (overlay_keys_nodup [] env)).1 h₁ g hg
  rw [stored, lookup_overlay _ _ hg, List.lookup_nil, Option.none_or] at hfirst
  rw [stored, stored, lookup_overlay _ _ hg, lookup_overlay _ _ hg, List.lookup_append,
    lookup_map_pairs]
  have hset : g ∈ (overlay [] env).map (·.1) ↔ (env.lookup g).isSome := by
    rw [mem_keys_iff, lookup_overlay _ _ hg, List.lookup_nil, Option.none_or]
  cases henv : env.lookup g with
  | some v =>
    rw [henv, Option.elim_some] at hfirst
    rw [if_pos (hset.2 (by simp [henv]))]
    simp only [Option.some_or, Option.elim_some]
    rw [hfirst, check_check hfirst]
  | none =>
    rw [if_neg (by simp [hset, henv]), Option.or_none, Option.none_or]

/-- The second check of loading succeeds with `s` exactly when checking the environment's entries
over the file's does. -/
theorem ofEntries_rechecked_iff {env file : List (String × Value)} {s₁ : Settings}
    (h₁ : ofEntries (overlay [] env) = .ok s₁) {s : Settings} :
    ofEntries (overlay ((((overlay [] env).map (·.1)).map fun f => (f, s₁.field f)) ++ file) env) =
      .ok s ↔ ofEntries (overlay env file) = .ok s := by
  rw [ofEntries_eq_ok_iff (overlay_keys_nodup _ _), ofEntries_eq_ok_iff (overlay_keys_nodup _ _)]
  exact forall₂_congr fun _ hg => by rw [stored_rechecked h₁ hg]

/-- When the environment's entries laid over the file's pass their checks, so do the
environment's entries alone: each of them is checked in the layers as well. -/
theorem exists_ofEntries_env {env file : List (String × Value)} {s : Settings}
    (h : ofEntries (overlay env file) = .ok s) : ∃ s₁, ofEntries (overlay [] env) = .ok s₁ := by
  cases h₁ : ofEntries (overlay [] env) with
  | ok s₁ => exact ⟨s₁, rfl⟩
  | error fs =>
    obtain ⟨kv, hkv, hnone⟩ := exists_failing_of_ofEntries_error h₁
    have hg := mem_fieldNames_of_overlay hkv
    have hstored := (ofEntries_eq_ok_iff (overlay_keys_nodup env file)).1 h kv.1 hg
    have hlook := lookup_of_mem (overlay_keys_nodup [] env) hkv
    rw [lookup_overlay _ _ hg, List.lookup_nil, Option.none_or] at hlook
    rw [stored, lookup_overlay _ _ hg, hlook, Option.some_or, Option.elim_some, hnone] at hstored
    cases hstored

/-- Loading succeeds when the environment's fields are read and, laid over the given values,
pass their checks; the fields set are those laid. -/
theorem load_eq_ok_iff {src : SettingsSources} {s : Settings} {set : List String} :
    load src = .ok (s, set) ↔ ∃ env, envEntries src.env src.envFile = .ok env ∧
      ofEntries (overlay src.given env) = .ok s ∧ set = (overlay src.given env).map (·.1) := by
  unfold load
  cases henv : envEntries src.env src.envFile with
  | error e => simp [bind, Except.bind]
  | ok env =>
    simp only [bind, Except.bind]
    cases hof : ofEntries (overlay src.given env) with
    | error fs => simp [hof, throw, throwThe, MonadExceptOf.throw]
    | ok s' => simp [hof, pure, Except.pure, eq_comm]

theorem map_fst_eq_ok {x : Except Error (Settings × List String)} {s : Settings}
    (h : x.map (·.1) = .ok s) : ∃ set, x = .ok (s, set) := by
  cases x with
  | error e => cases h
  | ok r =>
    simp only [Except.map, Except.ok.injEq] at h
    subst h
    exact ⟨r.2, rfl⟩

/-- Loading twice as the configuration is loaded, first the environment alone and then the values it
set in front of the file's fields, succeeds with `s` exactly when checking the environment's
fields laid over the file's once does. -/
theorem load_twice_eq_ok_iff {file : List (String × Value)} {env : List (String × String)}
    {envFile : List (String × Option String)} {s : Settings} :
    ((load { env, envFile }).bind fun first =>
      (load { given := (first.2.map fun f => (f, first.1.field f)) ++ file, env, envFile }).map
        (·.1)) = .ok s ↔
      ∃ entries, envEntries env envFile = .ok entries ∧
        ofEntries (overlay entries file) = .ok s := by
  constructor
  · intro h
    cases hfirst : load { env, envFile } with
    | error e => simp [hfirst, Except.bind] at h
    | ok first =>
      obtain ⟨s₁, set₁⟩ := first
      obtain ⟨E, hE, h₁, rfl⟩ := load_eq_ok_iff.1 hfirst
      rw [hfirst] at h
      simp only [Except.bind] at h
      obtain ⟨set₂, hsecond⟩ := map_fst_eq_ok h
      obtain ⟨E', hE', h₂, -⟩ := load_eq_ok_iff.1 hsecond
      dsimp only at hE h₁ hE' h₂
      rw [hE] at hE'
      cases hE'
      exact ⟨E, hE, (ofEntries_rechecked_iff h₁).1 h₂⟩
  · rintro ⟨E, hE, h⟩
    obtain ⟨s₁, h₁⟩ := exists_ofEntries_env h
    have hfirst : load { env, envFile } = .ok (s₁, (overlay [] E).map (·.1)) :=
      load_eq_ok_iff.2 ⟨E, hE, h₁, rfl⟩
    have hsecond : load ⟨((overlay [] E).map (·.1)).map (fun f => (f, s₁.field f)) ++ file, env,
        envFile⟩ = .ok (s, _) := load_eq_ok_iff.2 ⟨E, hE, (ofEntries_rechecked_iff h₁).2 h, rfl⟩
    rw [hfirst]
    simp only [Except.bind]
    rw [hsecond]
    rfl

end Settings

/-! ## Loading on a world -/

namespace World

variable {β γ : Type}

theorem Reads.run_bind {x : StateM World β} {f : β → StateM World γ} (hx : Reads x)
    (w : World) : (x >>= f).run w = (f (x.run w).1).run w := by
  rw [StateT.run_bind]
  have h := hx w
  rcases hr : x.run w with ⟨b, w'⟩
  rw [hr] at h
  subst h
  rfl

theorem run_pure_fst (b : β) (w : World) : ((pure b : StateM World β).run w).1 = b := rfl

theorem reads_entryKind (p : String) : Reads (Host.entryKind p : StateM World _) := by
  refine Reads.bind reads_get fun w => ?_
  dsimp only
  split
  · exact reads_pure _
  · split <;> exact reads_pure _

theorem reads_environment : Reads (Host.environment : StateM World _) := fun _ => rfl

end World

namespace Settings

open World

theorem reads_fileValues (p : String) : Reads (fileValues p : StateM World _) := by
  unfold fileValues
  refine Reads.bind (reads_readText p) fun r => ?_
  split <;> exact reads_pure _

theorem reads_envFileVariables : Reads (envFileVariables : StateM World _) := by
  unfold envFileVariables
  refine Reads.bind (reads_entryKind ".env") fun k => ?_
  split
  · exact reads_pure _
  · refine Reads.bind (reads_readText ".env") fun r => ?_
    split
    · exact Reads.bind reads_environment fun _ => reads_pure _
    · exact reads_pure _

theorem reads_fromEnvironment (given : List (String × Value)) :
    Reads (fromEnvironment given : StateM World _) := by
  unfold fromEnvironment
  refine Reads.bind reads_envFileVariables fun r => ?_
  split
  · exact reads_pure _
  · exact Reads.bind reads_environment fun _ => reads_pure _

/-- The fields that the configuration file at `p` gives on a world: none when nothing is there. -/
def configValues (w : World) (p : String) : Except Error (List (String × Value)) :=
  if ((Host.entryKind p : StateM World _).run w).1 == .missing then .ok []
  else ((fileValues p : StateM World _).run w).1

theorem fromEnvironment_run (w : World) (given : List (String × Value)) :
    ((fromEnvironment given : StateM World _).run w).1 =
      ((envFileVariables : StateM World _).run w).1.bind fun envFile =>
        load { given, env := w.env, envFile } := by
  unfold fromEnvironment
  rw [Reads.run_bind reads_envFileVariables]
  cases ((envFileVariables : StateM World _).run w).1 with
  | error e => rfl
  | ok envFile => rfl

theorem loadConfig_run (w : World) (p : String) :
    ((loadConfig (some p) : StateM World _).run w).1 =
      (configValues w p).bind fun file =>
        ((fromEnvironment [] : StateM World _).run w).1.bind fun first =>
          ((fromEnvironment ((first.2.map fun f => (f, first.1.field f)) ++ file) :
            StateM World _).run w).1.map (·.1) := by
  unfold loadConfig
  simp only [pure_bind]
  rw [Reads.run_bind (reads_entryKind p), configValues]
  by_cases hmiss : (((Host.entryKind p : StateM World _).run w).1 == .missing) = true
  · rw [if_pos hmiss, if_pos hmiss, Reads.run_bind (reads_fromEnvironment [])]
    cases ((fromEnvironment [] : StateM World _).run w).1 with
    | error e => rfl
    | ok first =>
      obtain ⟨s₀, set⟩ := first
      simp only []
      rw [Reads.run_bind (reads_fromEnvironment _), run_pure_fst]
      simp only [Except.bind]
  · rw [if_neg hmiss, if_neg hmiss, Reads.run_bind (reads_fileValues p)]
    cases ((fileValues p : StateM World _).run w).1 with
    | error e => rfl
    | ok values =>
      simp only []
      rw [Reads.run_bind (reads_fromEnvironment [])]
      cases ((fromEnvironment [] : StateM World _).run w).1 with
      | error e => rfl
      | ok first =>
        obtain ⟨s₀, set⟩ := first
        simp only []
        rw [Reads.run_bind (reads_fromEnvironment _), run_pure_fst]
        simp only [Except.bind]

/-- Loading the configuration from a file succeeds with `s` exactly when the file's fields, the
variables of the environment file and the environment's fields are read, and checking the
environment's fields laid over the file's, once, gives `s`. -/
theorem loadConfig_eq_ok_iff (w : World) (p : String) (s : Settings) :
    ((loadConfig (some p) : StateM World _).run w).1 = .ok s ↔
      ∃ file envFile env, configValues w p = .ok file ∧
        ((envFileVariables : StateM World _).run w).1 = .ok envFile ∧
        envEntries w.env envFile = .ok env ∧ ofEntries (overlay env file) = .ok s := by
  rw [loadConfig_run]
  simp only [fromEnvironment_run]
  cases hfile : configValues w p with
  | error e => simp [Except.bind]
  | ok file =>
    cases henvFile : ((envFileVariables : StateM World _).run w).1 with
    | error e => simp [Except.bind]
    | ok envFile =>
      show ((load { env := w.env, envFile }).bind fun first =>
        (load ⟨(first.2.map fun f => (f, first.1.field f)) ++ file, w.env, envFile⟩).map (·.1)) =
          .ok s ↔ _
      rw [load_twice_eq_ok_iff]
      simp

/-! ## What the configuration file gives -/

theorem textFields_keys {text : String} {file : List (String × Value)}
    (h : textFields text = .ok file) : ∀ kv ∈ file, kv.1 ∈ fieldNames := by
  unfold textFields at h
  split at h
  · split at h
    · cases h
      simp
    · cases h
  · cases h
    intro kv hkv
    obtain ⟨⟨k, v⟩, -, hk⟩ := List.mem_filterMap.1 hkv
    cases k
    case str key =>
      dsimp only at hk
      by_cases hc : fieldNames.contains key = true
      · rw [if_pos hc] at hk
        cases hk
        simpa using hc
      · rw [if_neg hc] at hk
        cases hk
    all_goals cases hk
  · cases h
    simp

/-- A mapping gives a field exactly the values of its entries with the field's name as key. -/
theorem textFields_of_dict {text : String} {entries : List (Value × Value)}
    (h : Yaml.load text = .ok (.dict entries)) :
    ∃ file, textFields text = .ok file ∧
      ∀ f ∈ fieldNames, ∀ v, (f, v) ∈ file ↔ (Value.str f, v) ∈ entries := by
  refine ⟨_, by rw [textFields, h], fun f hf v => ?_⟩
  rw [List.mem_filterMap]
  constructor
  · rintro ⟨⟨k, v'⟩, hkv, hk⟩
    cases k
    case str key =>
      dsimp only at hk
      by_cases hc : fieldNames.contains key = true
      · rw [if_pos hc, Option.some_inj, Prod.mk.injEq] at hk
        obtain ⟨rfl, rfl⟩ := hk
        exact hkv
      · rw [if_neg hc] at hk
        cases hk
    all_goals cases hk
  · intro hmem
    have hc : fieldNames.contains f = true := by simpa using hf
    exact ⟨(.str f, v), hmem, by simp only [hc, if_true]⟩

theorem textFields_of_isYaml {text : String} {e : Yaml.LoadError} (h : Yaml.load text = .error e)
    (hy : e.isYaml = true) : textFields text = .ok [] := by
  rw [textFields, h]
  exact if_pos hy

theorem textFields_of_not_dict {text : String} {v : Value} (h : Yaml.load text = .ok v)
    (hv : ∀ entries, v ≠ .dict entries) : textFields text = .ok [] := by
  rw [textFields, h]
  cases v
  case dict entries => exact absurd rfl (hv entries)
  all_goals rfl

/-- The text of a configuration file fails only where YAML's values cannot be built. -/
theorem textFields_error {text : String} {e' : Error} (h : textFields text = .error e') :
    ∃ e, Yaml.load text = .error e ∧ e.isYaml = false := by
  unfold textFields at h
  split at h
  · rename_i e he
    by_cases hy : e.isYaml = true
    · rw [if_pos hy] at h
      cases h
    · exact ⟨e, he, by simpa using hy⟩
  · cases h
  · cases h

theorem entryKind_of_readFile_ok {w : World} {p : String} {bs : ByteArray}
    (h : ((Host.readFile p : StateM World _).run w).1 = .ok bs) :
    ((Host.entryKind p : StateM World _).run w).1 = .file := by
  simp only [Host.readFile, Host.entryKind] at h ⊢
  cases hr : w.reach (w.resolve p) with
  | some e => simp [hr] at h
  | none =>
    cases hf : w.find? (w.resolve p) with
    | none => simp [hr, hf] at h
    | some entry =>
      cases entry with
      | file b =>
        simp [hr, hf]
        rfl
      | directory => simp [hr, hf] at h

/-- A file whose text can be read is there. -/
theorem entryKind_of_text_ok {w : World} {p t : String} (h : w.text p = .ok t) :
    ((Host.entryKind p : StateM World _).run w).1 = .file := by
  unfold World.text Host.readText at h
  split at h
  · cases h
  · rw [Reads.run_bind (reads_readFile p)] at h
    cases hr : ((Host.readFile p : StateM World _).run w).1 with
    | error e =>
      rw [hr] at h
      cases h
    | ok bs => exact entryKind_of_readFile_ok hr

theorem text_run (w : World) (p : String) :
    ((Host.readText p : StateM World _).run w).1 = w.text p := rfl

section FileValues

variable {w : World} {p : String}

theorem fileValues_of_text_ok {t : String} (h : w.text p = .ok t) :
    ((fileValues p : StateM World _).run w).1 = textFields t := by
  unfold fileValues
  rw [Reads.run_bind (reads_readText p), text_run, h]
  rfl

theorem fileValues_of_text_os {e : OsError} (h : w.text p = .error (.os e)) :
    ((fileValues p : StateM World _).run w).1 = .ok [] := by
  unfold fileValues
  rw [Reads.run_bind (reads_readText p), text_run, h]
  rfl

theorem fileValues_of_text_error {f : Host.ReadFailure} (h : w.text p = .error f)
    (hf : ∀ o, f ≠ .os o) : ((fileValues p : StateM World _).run w).1 = .error (readFailure f) := by
  unfold fileValues
  rw [Reads.run_bind (reads_readText p), text_run, h]
  cases f with
  | os o => exact absurd rfl (hf o)
  | nullByte => rfl
  | undecodable d => rfl

/-- A configuration file whose text can be read gives the fields its text sets. -/
theorem configValues_of_text_ok {t : String} (h : w.text p = .ok t) :
    configValues w p = textFields t := by
  rw [configValues, entryKind_of_text_ok h, if_neg (by decide), fileValues_of_text_ok h]

/-- A configuration file that the system cannot read gives nothing. -/
theorem configValues_of_text_os {e : OsError} (h : w.text p = .error (.os e)) :
    configValues w p = .ok [] := by
  rw [configValues]
  split
  · rfl
  · exact fileValues_of_text_os h

/-- The configuration file gives nothing, or what its text sets, or fails on a text it cannot
read for a reason other than the system's. -/
theorem configValues_cases (w : World) (p : String) :
    configValues w p = .ok [] ∨ (∃ t, w.text p = .ok t ∧ configValues w p = textFields t) ∨
      ∃ f, w.text p = .error f ∧ (∀ o, f ≠ .os o) ∧ configValues w p = .error (readFailure f) := by
  unfold configValues
  split
  · exact .inl rfl
  · cases ht : w.text p with
    | ok t => exact .inr (.inl ⟨t, rfl, fileValues_of_text_ok ht⟩)
    | error f =>
      by_cases hos : ∃ o, f = .os o
      · obtain ⟨o, rfl⟩ := hos
        exact .inl (fileValues_of_text_os ht)
      · have hf : ∀ o, f ≠ .os o := fun o ho => hos ⟨o, ho⟩
        exact .inr (.inr ⟨f, rfl, hf, fileValues_of_text_error ht hf⟩)

/-- Reading the configuration file fails only where its text cannot be read for a reason other
than the system's, or where its text fails. -/
theorem configValues_error {e : Error} (h : configValues w p = .error e) :
    (∃ f, w.text p = .error f ∧ ∀ o, f ≠ .os o) ∨
      ∃ t, w.text p = .ok t ∧ textFields t = .error e := by
  rcases configValues_cases w p with hnone | ⟨t, ht, htext⟩ | ⟨f, hf, hos, -⟩
  · rw [hnone] at h
    cases h
  · rw [htext] at h
    exact .inr ⟨t, ht, h⟩
  · exact .inl ⟨f, hf, hos⟩

/-- Every key the configuration file gives names a field. -/
theorem configValues_keys {file : List (String × Value)} (h : configValues w p = .ok file) :
    ∀ kv ∈ file, kv.1 ∈ fieldNames := by
  rcases configValues_cases w p with hnone | ⟨t, -, htext⟩ | ⟨f, -, -, hfail⟩
  · rw [hnone] at h
    cases h
    simp
  · rw [htext] at h
    exact textFields_keys h
  · rw [hfail] at h
    cases h

end FileValues

/-- Settings are layered: each field holds the environment's checked value, else the file's,
else its default; reading the file fails only on text or YAML values that cannot be read. -/
theorem loadConfig_layers (w : World) (p : String) :
    (∀ s, ((loadConfig (some p) : StateM World _).run w).1 = .ok s ↔
      ∃ file envFile env, configValues w p = .ok file ∧
        ((envFileVariables : StateM World _).run w).1 = .ok envFile ∧
        envEntries w.env envFile = .ok env ∧ ofEntries (overlay env file) = .ok s ∧
        ∀ f ∈ fieldNames, Layered env file f (s.field f)) ∧
    (∀ f v x, check f v = some x → check f x = some x) ∧
    (∀ file, configValues w p = .ok file → ∀ kv ∈ file, kv.1 ∈ fieldNames) ∧
    (∀ e, w.text p = .error (.os e) → configValues w p = .ok []) ∧
    (∀ t, w.text p = .ok t → configValues w p = textFields t ∧
      (∀ e, Yaml.load t = .error e → e.isYaml = true → textFields t = .ok []) ∧
      (∀ v, Yaml.load t = .ok v → (∀ entries, v ≠ .dict entries) → textFields t = .ok []) ∧
      ∀ entries, Yaml.load t = .ok (.dict entries) → ∃ file, textFields t = .ok file ∧
        ∀ f ∈ fieldNames, ∀ v, (f, v) ∈ file ↔ (Value.str f, v) ∈ entries) ∧
    (∀ e, configValues w p = .error e →
      (∃ f, w.text p = .error f ∧ ∀ o, f ≠ .os o) ∨
        ∃ t e', w.text p = .ok t ∧ Yaml.load t = .error e' ∧ e'.isYaml = false) := by
  refine ⟨fun s => ?_, fun _ _ _ => check_check, fun _ => configValues_keys,
    fun _ => configValues_of_text_os, fun _ ht => ⟨configValues_of_text_ok ht,
      fun _ => textFields_of_isYaml, fun _ => textFields_of_not_dict, fun _ => textFields_of_dict⟩,
    fun _ h => ?_⟩
  · rw [loadConfig_eq_ok_iff]
    constructor
    · rintro ⟨file, envFile, env, hfile, henvFile, henv, hs⟩
      exact ⟨file, envFile, env, hfile, henvFile, henv, hs, ofEntries_overlay_eq_ok_iff.1 hs⟩
    · rintro ⟨file, envFile, env, hfile, henvFile, henv, hs, -⟩
      exact ⟨file, envFile, env, hfile, henvFile, henv, hs⟩
  · rcases configValues_error h with hread | ⟨t, ht, hfail⟩
    · exact .inl hread
    · obtain ⟨e', hload, hy⟩ := textFields_error hfail
      exact .inr ⟨t, e', ht, hload, hy⟩

end Settings

end Manuscript
