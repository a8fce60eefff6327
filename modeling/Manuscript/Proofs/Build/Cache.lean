import Mathlib.Data.Set.Card
import Manuscript.Build.Cache

/-!
# The compiler cache as a finite map

A compiler cache is read as a finite map from a group and a format to a compiler and the
fingerprint it was built with (`CompilerCache.view`). Its keys `group:format` are made by
joining texts, and a group may itself hold `:`; keys still tell groups and formats apart as
long as the format holds no `:` (`CompilerCache.join_inj`), so the map is over such formats
(`CompilerCache.FormatName`, `CompilerCache.key_inj`). The formats a build names, `md` and
`mdx`, are among them.

Through the view each operation is one of a map's. A lookup runs its build exactly when the
map has no entry for the group and format, or one with another fingerprint
(`getOrBuild_of_hit`, `getOrBuild_of_miss`); a build that fails changes nothing, and one that
succeeds sets that entry and no other (`view_store`). Clearing empties the map (`view_clear`).
While the keys are those of distinct groups and formats (`CompilerCache.Keyed`), the number
of entries is the size of the map (`size_eq_ncard`).

Over a run of calls (`CacheCall.perform`) the cache follows a reference that remembers, per
group and format, the fingerprint of its last successful build since the last clear
(`CacheCall.next`). A lookup builds exactly when it misses that reference
(`CacheCall.perform_follows`), so the builds of a whole run are the misses of its lookups, in
order (`CacheCall.run_follows`, `cache_is_fingerprinted_map`).
-/

namespace Manuscript

/-- Two lists cut at the first occurrence of one element have equal parts. -/
theorem append_cons_inj_of_not_mem_left {α : Type} {a : α} :
    ∀ {x₁ x₂ z₁ z₂ : List α}, a ∉ x₁ → a ∉ x₂ → x₁ ++ a :: z₁ = x₂ ++ a :: z₂ →
      x₁ = x₂ ∧ z₁ = z₂
  | [], [], _, _, _, _, h => ⟨rfl, List.cons.inj h |>.2⟩
  | [], b :: _, _, _, _, h₂, h => by
    have hab : a = b := (List.cons.inj h).1
    exact absurd (hab ▸ List.mem_cons_self) h₂
  | b :: _, [], _, _, h₁, _, h => by
    have hba : b = a := (List.cons.inj h).1
    exact absurd (hba ▸ List.mem_cons_self) h₁
  | b :: x₁, c :: x₂, _, _, h₁, h₂, h => by
    simp only [List.cons_append, List.cons.injEq] at h
    obtain ⟨rfl, h⟩ := h
    obtain ⟨rfl, rfl⟩ := append_cons_inj_of_not_mem_left
      (fun hm => h₁ (List.mem_cons_of_mem _ hm)) (fun hm => h₂ (List.mem_cons_of_mem _ hm)) h
    exact ⟨rfl, rfl⟩

namespace CompilerCache

/-! ## Keys -/

/-- A text joined by `:` to a text without `:` gives both back, whatever the first holds. -/
theorem join_inj {g g' f f' : String} (hf : ':' ∉ f.toList) (hf' : ':' ∉ f'.toList)
    (h : g ++ ":" ++ f = g' ++ ":" ++ f') : g = g' ∧ f = f' := by
  -- read from the end, the last `:` of either side is the one that was joined
  have hcolon : (":" : String).toList = [':'] := rfl
  have hr := congrArg (fun s : String => s.toList.reverse) h
  simp only [String.toList_append, hcolon, List.reverse_append, List.append_assoc] at hr
  obtain ⟨hfr, hgr⟩ := append_cons_inj_of_not_mem_left (by simpa using hf) (by simpa using hf') hr
  exact ⟨String.toList_inj.1 (List.reverse_inj.1 hgr), String.toList_inj.1 (List.reverse_inj.1 hfr)⟩

/-- A format whose name holds no `:`, so that a key can be cut back into its group and format. -/
@[ext]
structure FormatName where
  name : String
  colon_free : ':' ∉ name.toList
  deriving DecidableEq

theorem key_inj {g g' : String} {f f' : FormatName} (h : key g f.name = key g' f'.name) :
    g = g' ∧ f = f' := by
  obtain ⟨hg, hf⟩ := join_inj f.colon_free f'.colon_free h
  exact ⟨hg, FormatName.ext hf⟩

/-! ## The cache as a map -/

/-- The cache as a finite map: the compiler and the fingerprint stored for a group and a
format. -/
def view (c : CompilerCache) (p : String × FormatName) : Option (Compiler × String) :=
  (c.get? p.1 p.2.name).map fun e => (e.compiler, e.configHash)

/-- The entry that setting `e` under `k` makes of an entry already there. -/
def overwrite (k : String) (e : CacheEntry) (x : String × CacheEntry) : String × CacheEntry :=
  if x.1 == k then (x.1, e) else x

theorem overwrite_fst (k : String) (e : CacheEntry) (x : String × CacheEntry) :
    (overwrite k e x).1 = x.1 := by
  unfold overwrite
  split <;> rfl

theorem put_eq (c : CompilerCache) (k : String) (e : CacheEntry) :
    c.put k e = if c.entries.any (·.1 == k) then { c with entries := c.entries.map (overwrite k e) }
      else { c with entries := c.entries ++ [(k, e)] } := by
  unfold put
  rfl

/-- Overwriting keeps the keys, so a lookup finds the overwritten form of the entry it found. -/
theorem find?_map_overwrite (l : List (String × CacheEntry)) (k k' : String) (e : CacheEntry) :
    (l.map (overwrite k e)).find? (·.1 == k') = (l.find? (·.1 == k')).map (overwrite k e) := by
  rw [List.find?_map]
  congr
  funext x
  simp only [Function.comp, overwrite_fst]

theorem find?_put (c : CompilerCache) (k k' : String) (e : CacheEntry) :
    (c.put k e).find? k' = if k' = k then some e else c.find? k' := by
  rw [put_eq]
  unfold find?
  split
  · next hany =>
    rw [find?_map_overwrite, Option.map_map]
    by_cases hk : k' = k
    · subst hk
      obtain ⟨x, hx⟩ : ∃ x, c.entries.find? (·.1 == k') = some x :=
        Option.isSome_iff_exists.1 (List.find?_isSome.2 (List.any_eq_true.1 hany))
      have hxk : (x.1 == k') = true := by
        have hfound := List.find?_some hx
        exact hfound
      rw [hx, if_pos rfl]
      simp only [Option.map_some, Function.comp, overwrite, if_pos hxk]
    · rw [if_neg hk]
      refine Option.map_congr fun x hx => ?_
      have hxk : x.1 = k' := by simpa using List.find?_some hx
      have hne : ¬(x.1 == k) = true := by simpa [hxk] using hk
      simp only [Function.comp, overwrite, if_neg hne]
  · next hnone =>
    rw [List.find?_append]
    by_cases hk : k' = k
    · subst hk
      have hfind : c.entries.find? (·.1 == k') = none :=
        List.find?_eq_none.2 fun x hx hxk => hnone (List.any_eq_true.2 ⟨x, hx, hxk⟩)
      rw [hfind, if_pos rfl]
      simp
    · have hsingle : [(k, e)].find? (fun x : String × CacheEntry => x.1 == k') = none := by
        simp [Ne.symm hk]
      rw [hsingle, Option.or_none, if_neg hk]

theorem store_entries (c : CompilerCache) (g f h : String) (comp : Compiler) :
    (c.store g f h comp).entries = (c.put (key g f) ⟨comp, h, c.built + 1⟩).entries := rfl

/-- A build that is stored sets the entry of its group and format, and no other. -/
theorem view_store (c : CompilerCache) (g : String) (f : FormatName) (h : String)
    (comp : Compiler) :
    (c.store g f.name h comp).view = Function.update c.view (g, f) (some (comp, h)) := by
  funext ⟨g', f'⟩
  have hfind : (c.store g f.name h comp).find? (key g' f'.name) =
      if key g' f'.name = key g f.name then some ⟨comp, h, c.built + 1⟩
      else c.find? (key g' f'.name) :=
    find?_put c _ _ _
  by_cases hp : (g', f') = (g, f)
  · obtain ⟨rfl, rfl⟩ := Prod.mk.inj hp
    rw [if_pos rfl] at hfind
    simp only [view, get?, hfind, Function.update_self, Option.map_some]
  · -- distinct groups and formats have distinct keys
    have hk : key g' f'.name ≠ key g f.name := fun hk => hp (Prod.ext_iff.2 (key_inj hk))
    simp only [view, get?, hfind, if_neg hk, Function.update_of_ne hp]

theorem view_clear (c : CompilerCache) : c.clear.2.view = fun _ => none := rfl

theorem clear_fst (c : CompilerCache) : c.clear.1 = c.size := rfl

/-- A lookup that finds its fingerprint hands out the stored compiler and runs no build. -/
theorem getOrBuild_of_hit {m : Type → Type} [Monad m] {c : CompilerCache} {g : String}
    {f : FormatName} {h : String} {comp : Compiler} (b : m (Except Error Compiler))
    (hv : c.view (g, f) = some (comp, h)) :
    c.getOrBuild g f.name h b = pure (.ok (comp, c)) := by
  obtain ⟨e, he, heq⟩ := Option.map_eq_some_iff.1 hv
  obtain ⟨rfl, rfl⟩ := Prod.mk.inj heq
  unfold getOrBuild
  rw [he]
  simp only [beq_self_eq_true, if_true]

/-- Any other lookup runs its build once: a failure is handed on with the cache as it was, and
a compiler is stored under the lookup's fingerprint. -/
theorem getOrBuild_of_miss {m : Type → Type} [Monad m] [LawfulMonad m] {c : CompilerCache}
    {g : String} {f : FormatName} {h : String} (b : m (Except Error Compiler))
    (hv : ∀ comp, c.view (g, f) ≠ some (comp, h)) :
    c.getOrBuild g f.name h b =
      (fun r => r.map fun comp => (comp, c.store g f.name h comp)) <$> b := by
  unfold getOrBuild
  rw [map_eq_bind_pure_comp]
  rcases he : c.get? g f.name with _ | e
  · refine bind_congr fun r => ?_
    cases r <;> rfl
  · -- the stored fingerprint is another one
    have hne : ¬(e.configHash == h) = true := by
      intro hh
      apply hv e.compiler
      simp only [view, he, Option.map_some, beq_iff_eq.1 hh]
    simp only [if_neg hne]
    refine bind_congr fun r => ?_
    cases r <;> rfl

/-- The compiler a lookup hands out is the one its group and format hold afterwards. -/
theorem view_getOrBuild {c c' : CompilerCache} {g : String} {f : FormatName} {h : String}
    {r : Except Error Compiler} {comp : Compiler}
    (hout : (c.getOrBuild g f.name h (pure r) : Id _) = .ok (comp, c')) :
    c'.view (g, f) = some (comp, h) := by
  by_cases hit : ∃ stored, c.view (g, f) = some (stored, h)
  · obtain ⟨stored, hv⟩ := hit
    rw [getOrBuild_of_hit _ hv] at hout
    cases hout
    exact hv
  · rw [getOrBuild_of_miss _ fun stored hv => hit ⟨stored, hv⟩] at hout
    cases r with
    | error e => cases hout
    | ok built =>
      cases hout
      rw [view_store, Function.update_self]

/-! ## The number of entries -/

/-- The keys of the entries are those of distinct groups and formats. -/
def Keyed (c : CompilerCache) : Prop :=
  ∃ dom : List (String × FormatName), dom.Nodup ∧
    c.entries.map Prod.fst = dom.map fun p => key p.1 p.2.name

theorem keyed_empty : ({} : CompilerCache).Keyed := ⟨[], List.nodup_nil, rfl⟩

theorem Keyed.clear {c : CompilerCache} : c.clear.2.Keyed := ⟨[], List.nodup_nil, rfl⟩

theorem Keyed.store {c : CompilerCache} (hc : c.Keyed) (g : String) (f : FormatName)
    (h : String) (comp : Compiler) : (c.store g f.name h comp).Keyed := by
  obtain ⟨dom, hnd, hkeys⟩ := hc
  unfold Keyed
  rw [store_entries, put_eq]
  split
  · -- an entry overwritten in place keeps its key
    refine ⟨dom, hnd, ?_⟩
    rw [List.map_map, ← hkeys]
    congr 1
    funext x
    exact overwrite_fst _ _ x
  · next hnone =>
    have hnew : (g, f) ∉ dom := by
      intro hmem
      apply hnone
      have hk : key g f.name ∈ c.entries.map Prod.fst := by
        rw [hkeys]
        exact List.mem_map_of_mem hmem
      obtain ⟨x, hx, hxk⟩ := List.mem_map.1 hk
      exact List.any_eq_true.2 ⟨x, hx, by simp [hxk]⟩
    refine ⟨dom ++ [(g, f)], ?_, ?_⟩
    · refine List.nodup_append.2 ⟨hnd, List.nodup_singleton _, fun a ha b hb hab => hnew ?_⟩
      rw [← List.mem_singleton.1 hb, ← hab]
      exact ha
    · simp [hkeys]

theorem isSome_view_iff (c : CompilerCache) (g : String) (f : FormatName) :
    (c.view (g, f)).isSome ↔ key g f.name ∈ c.entries.map Prod.fst := by
  simp only [view, get?, find?, Option.isSome_map, List.find?_isSome, List.mem_map, beq_iff_eq]

/-- Clearing drops as many entries as the map has. -/
theorem size_eq_ncard {c : CompilerCache} (hc : c.Keyed) :
    c.size = {p | (c.view p).isSome}.ncard := by
  obtain ⟨dom, hnd, hkeys⟩ := hc
  have hset : {p | (c.view p).isSome} = ↑dom.toFinset := by
    ext ⟨g, f⟩
    rw [Set.mem_ofPred_eq, isSome_view_iff, hkeys, Finset.mem_coe, List.mem_toFinset,
      List.mem_map]
    constructor
    · rintro ⟨q, hq, hqk⟩
      obtain ⟨rfl, rfl⟩ := key_inj hqk
      exact hq
    · exact fun hp => ⟨(g, f), hp, rfl⟩
  rw [hset, Set.ncard_coe_finset, List.toFinset_card_of_nodup hnd]
  calc c.size = (c.entries.map Prod.fst).length := (List.length_map _).symm
    _ = dom.length := by rw [hkeys, List.length_map]

end CompilerCache

/-! ## Runs of calls -/

/-- A call on a compiler cache. A lookup carries what its build gives when it is run. -/
inductive CacheCall where
  | getOrBuild (group : String) (format : CompilerCache.FormatName) (hash : String)
      (build : Except Error Compiler)
  | get (group : String) (format : CompilerCache.FormatName)
  | entries
  | clear
  | size

/-- The builds run, each logged with its group and format. -/
abbrev BuildLog := List (String × CompilerCache.FormatName)

/-- Per group and format, the fingerprint of the last successful build since the last clear. -/
abbrev LastBuilt := String × CompilerCache.FormatName → Option String

namespace CacheCall

/-- Performs a call: the cache after it. A lookup's build logs its group and format when it
runs. -/
def perform (c : CompilerCache) : CacheCall → StateM BuildLog CompilerCache
  | .getOrBuild g f h r => do
    let out ← c.getOrBuild g f.name h (do modify (· ++ [(g, f)]); pure r)
    return match out with
      | .ok (_, c') => c'
      | .error _ => c
  | .clear => pure c.clear.2
  | .get .. | .entries | .size => pure c

/-- The reference after a call: a lookup that succeeds leaves its own fingerprint, a clear
forgets every build. -/
def next (last : LastBuilt) : CacheCall → LastBuilt
  | .getOrBuild g f h (.ok _) => Function.update last (g, f) (some h)
  | .clear => fun _ => none
  | _ => last

/-- The build a call should run against the reference: a lookup whose group and format have
no build since the last clear, or whose last one has another fingerprint, builds once. -/
def builds (last : LastBuilt) : CacheCall → BuildLog
  | .getOrBuild g f h _ => if last (g, f) = some h then [] else [(g, f)]
  | _ => []

/-- The builds a run of calls should run from the reference `last`, in order. -/
def expectedBuilds : LastBuilt → List CacheCall → BuildLog
  | _, [] => []
  | last, call :: rest => call.builds last ++ expectedBuilds (call.next last) rest

/-- A cache follows the reference when its keys are those of distinct groups and formats and it
holds, for each, the fingerprint of the last successful build. -/
structure Follows (c : CompilerCache) (last : LastBuilt) : Prop where
  keyed : c.Keyed
  hashes : ∀ p, (c.view p).map Prod.snd = last p

theorem follows_empty : Follows {} fun _ => none := ⟨CompilerCache.keyed_empty, fun _ => rfl⟩

theorem Follows.store {c : CompilerCache} {last : LastBuilt} (hc : Follows c last) (g : String)
    (f : CompilerCache.FormatName) (h : String) (comp : Compiler) :
    Follows (c.store g f.name h comp) (Function.update last (g, f) (some h)) := by
  refine ⟨hc.keyed.store g f h comp, fun p => ?_⟩
  rw [CompilerCache.view_store]
  by_cases hp : p = (g, f)
  · subst hp
    simp only [Function.update_self, Option.map_some]
  · simp only [Function.update_of_ne hp, hc.hashes p]

/-- One call keeps the cache following the reference and runs the builds the reference
expects. -/
theorem perform_follows {c : CompilerCache} {last : LastBuilt} (hc : Follows c last)
    (call : CacheCall) (log : BuildLog) :
    Follows ((call.perform c).run log).1 (call.next last) ∧
      ((call.perform c).run log).2 = log ++ call.builds last := by
  cases call with
  | getOrBuild g f h r =>
    by_cases hit : last (g, f) = some h
    · -- the stored fingerprint is the lookup's own: nothing is built
      obtain ⟨⟨comp, h'⟩, hv, hh⟩ := Option.map_eq_some_iff.1 ((hc.hashes (g, f)).trans hit)
      simp only at hh
      subst hh
      have hnext : next last (.getOrBuild g f h' r) = last := by
        cases r with
        | error => rfl
        | ok => exact Function.update_eq_self_iff.2 hit.symm
      simp only [perform, builds, if_pos hit, CompilerCache.getOrBuild_of_hit _ hv, hnext]
      exact ⟨hc, (List.append_nil log).symm⟩
    · -- no build of this fingerprint is stored: the build runs once
      have hmiss : ∀ comp, c.view (g, f) ≠ some (comp, h) := fun comp hv =>
        hit ((hc.hashes (g, f)).symm.trans (by rw [hv]; rfl))
      simp only [perform, builds, if_neg hit, CompilerCache.getOrBuild_of_miss _ hmiss]
      cases r with
      | error e => exact ⟨hc, rfl⟩
      | ok comp => exact ⟨hc.store g f h comp, rfl⟩
  | get g f => exact ⟨hc, (List.append_nil log).symm⟩
  | entries => exact ⟨hc, (List.append_nil log).symm⟩
  | clear => exact ⟨⟨CompilerCache.Keyed.clear, fun _ => rfl⟩, (List.append_nil log).symm⟩
  | size => exact ⟨hc, (List.append_nil log).symm⟩

/-- A run of calls keeps the cache following the reference, and runs the builds the reference
expects, in order. -/
theorem run_follows :
    ∀ (calls : List CacheCall) {c : CompilerCache} {last : LastBuilt} (log : BuildLog),
      Follows c last →
      Follows ((calls.foldlM perform c).run log).1 (calls.foldl next last) ∧
        ((calls.foldlM perform c).run log).2 = log ++ expectedBuilds last calls
  | [], _, _, log, hc => ⟨hc, (List.append_nil log).symm⟩
  | call :: rest, c, last, log, hc => by
    obtain ⟨hc', hlog⟩ := perform_follows hc call log
    obtain ⟨hend, hrest⟩ := run_follows rest ((call.perform c).run log).2 hc'
    rw [List.foldlM_cons, StateT.run_bind]
    -- the rest of the run starts from the cache and the log the first call leaves
    refine ⟨hend, hrest.trans ?_⟩
    rw [hlog, expectedBuilds, List.append_assoc]

end CacheCall

open CompilerCache in
/-- The compiler cache is a finite map from groups and formats to compilers and their
fingerprints, and a lookup runs its build exactly when it misses the stored fingerprint. -/
theorem cache_is_fingerprinted_map :
    (∀ (g g' : String) (f f' : FormatName), key g f.name = key g' f'.name → g = g' ∧ f = f') ∧
    (∀ {m : Type → Type} [Monad m] (c : CompilerCache) (g : String) (f : FormatName)
        (h : String) (b : m (Except Error Compiler)) (comp : Compiler),
      c.view (g, f) = some (comp, h) → c.getOrBuild g f.name h b = pure (.ok (comp, c))) ∧
    (∀ {m : Type → Type} [Monad m] [LawfulMonad m] (c : CompilerCache) (g : String)
        (f : FormatName) (h : String) (b : m (Except Error Compiler)),
      (∀ comp, c.view (g, f) ≠ some (comp, h)) →
      c.getOrBuild g f.name h b =
        (fun r => r.map fun comp => (comp, c.store g f.name h comp)) <$> b) ∧
    (∀ (c : CompilerCache) (g : String) (f : FormatName) (h : String) (comp : Compiler),
      (c.store g f.name h comp).view = Function.update c.view (g, f) (some (comp, h))) ∧
    (∀ (c c' : CompilerCache) (g : String) (f : FormatName) (h : String)
        (r : Except Error Compiler) (comp : Compiler),
      (c.getOrBuild g f.name h (pure r) : Id _) = .ok (comp, c') →
        c'.view (g, f) = some (comp, h)) ∧
    (∀ c : CompilerCache, c.Keyed →
      c.clear.1 = {p | (c.view p).isSome}.ncard ∧ c.clear.2.view = fun _ => none) ∧
    (∀ calls : List CacheCall,
      CacheCall.Follows ((calls.foldlM CacheCall.perform {}).run []).1
          (calls.foldl CacheCall.next fun _ => none) ∧
        ((calls.foldlM CacheCall.perform {}).run []).2 =
          CacheCall.expectedBuilds (fun _ => none) calls) := by
  refine ⟨fun _ _ _ _ hk => key_inj hk, fun _ _ _ _ b _ hv => getOrBuild_of_hit b hv,
    fun _ _ _ _ b hmiss => getOrBuild_of_miss b hmiss, view_store,
    fun _ _ _ _ _ _ _ => view_getOrBuild,
    fun c hc => ⟨(clear_fst c).trans (size_eq_ncard hc), view_clear c⟩, fun calls => ?_⟩
  have hrun := CacheCall.run_follows calls [] CacheCall.follows_empty
  exact ⟨hrun.1, hrun.2.trans (List.nil_append _)⟩

end Manuscript
