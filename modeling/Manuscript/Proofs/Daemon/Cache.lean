import Manuscript.Proofs.Daemon.Dependencies
import Manuscript.Proofs.Except

/-!
# Cached compilers

The build service keeps one compiler per cache group and format and hands it out again while
the fingerprint of the request is the one it was built with. A request that gives no
fingerprint gets the digest of its configuration: its resolved format and the compiler fields it
set (`fingerprintOf_ok`). Those fields determine the options of a new compiler, given the format
and the development mode (`CompilerFields.compilerOptions_eq_of_entries`).

A cache is fresh for a mode when each compiler it holds is the one that the configuration of its
fingerprint builds in that mode (`CompilerCache.Fresh`). As long as the configurations served
have distinct fingerprints, a lookup in a fresh cache gives the compiler a fresh build gives,
and leaves the cache fresh (`CompilerCache.getOrBuild_fresh`). A request then gets the answer it
would get from an empty cache (`ServiceRequest.serve_fresh`), and so does every request of a
session served from one cache under settings of one mode (`serveAll_fresh`,
`shared_cache_serves_fresh_compilers`).

The mode is not part of the fingerprint. After a request under development settings, the same
request under production settings is handed the compiler built in development mode
(`shared_cache_keeps_development_mode`).
-/

namespace Manuscript

/-! ## Reading names and options back -/

theorem SourceFormat.ofName?_name (f : SourceFormat) : SourceFormat.ofName? f.name = some f := by
  cases f <;> rfl

theorem SourceFormat.name_injective : Function.Injective SourceFormat.name := fun a b h =>
  Option.some.inj (by rw [← ofName?_name a, h, ofName?_name])

theorem ProgramShape.ofName?_name (s : ProgramShape) : ProgramShape.ofName? s.name = some s := by
  cases s <;> rfl

theorem ProgramShape.name_injective : Function.Injective ProgramShape.name := fun a b h =>
  Option.some.inj (by rw [← ofName?_name a, h, ofName?_name])

theorem Markdown.Preset.ofName?_name (p : Markdown.Preset) :
    Markdown.Preset.ofName? p.name = some p := by
  cases p <;> rfl

theorem Markdown.Preset.name_injective : Function.Injective Markdown.Preset.name := fun a b h =>
  Option.some.inj (by rw [← ofName?_name a, h, ofName?_name])

/-- A compiler that was built has the options it was built from. -/
theorem Compiler.options_of_build {o : CompilerOptions} {c : Compiler}
    (h : Compiler.build o = .ok c) : c.options = o := by
  unfold Compiler.build at h
  rcases hd : Compiler.dialectOf o with e | d <;> rw [hd] at h
  · cases h
  · rcases ht : o.plugins.mapM Compiler.attach with e | ts <;> rw [ht] at h
    · cases h
    · cases h
      rfl

namespace Daemon

namespace CompilerFields

theorem toList_filter_key {α : Type} (o : Option α) (k k' : String) (v : α → Value) :
    (o.map fun a => (k, v a)).toList.filter (fun e => e.1 == k') =
      if k = k' then (o.map fun a => (k, v a)).toList else [] := by
  cases o with
  | none => simp
  | some a => by_cases h : k = k' <;> simp [h]

/-- A field set or not, as entries under its key, is given back by them when its value is. -/
theorem eq_of_toList_perm {α : Type} {a b : Option α} {k : String} {v : α → Value}
    (hv : Function.Injective v)
    (h : (a.map fun x => (k, v x)).toList.Perm (b.map fun x => (k, v x)).toList) : a = b := by
  cases a <;> cases b <;> simp_all [hv.eq_iff]

/-- The entries of the fields a request set, in any order, give back every field but the
format. -/
theorem eq_of_entries_perm {f g : CompilerFields} (h : f.entries.Perm g.entries) :
    f.shape = g.shape ∧ f.development = g.development ∧ f.preset = g.preset ∧
      f.enable = g.enable := by
  have key : ∀ k, (f.entries.filter (·.1 == k)).Perm (g.entries.filter (·.1 == k)) :=
    fun k => h.filter _
  have hs := key "output_format"
  have hd := key "development"
  have hp := key "markdown_preset"
  have he := key "enable"
  simp only [CompilerFields.entries, List.filter_append, toList_filter_key] at hs hd hp he
  simp at hs hd hp he
  exact ⟨eq_of_toList_perm (fun _ _ h => ProgramShape.name_injective (Value.str.inj h)) hs,
    eq_of_toList_perm (fun _ _ => Value.bool.inj) hd,
    eq_of_toList_perm (fun _ _ h => Markdown.Preset.name_injective (Value.str.inj h)) hp,
    eq_of_toList_perm (fun _ _ h => (List.map_injective_iff.2 fun _ _ => Value.str.inj)
      (Value.list.inj h)) he⟩

/-- Requests that set the same compiler fields get new compilers with the same options, for a
given format and development mode. -/
theorem compilerOptions_eq_of_entries {f g : CompilerFields} (h : f.entries = g.entries)
    (format : SourceFormat) (dev : Bool) :
    f.toOptions.compilerOptions format dev = g.toOptions.compilerOptions format dev := by
  obtain ⟨hs, hd, hp, he⟩ := eq_of_entries_perm (.of_eq h)
  unfold toOptions BuildOptions.compilerOptions
  rw [h, hs, hd, hp, he]

end CompilerFields

end Daemon

/-! ## Fingerprints -/

namespace Json

theorem write_str (st : Style) (s : String) :
    write st (.str s) = .ok (quoteText st.asciiOnly s) := by
  rw [write]

theorem write_bool (st : Style) (b : Bool) :
    write st (.bool b) = .ok (if b then "true" else "false") := by
  rw [write]

theorem write_list_ok (st : Style) {xs : List Value} (h : ∀ x ∈ xs, ∃ t, write st x = .ok t) :
    ∃ t, write st (.list xs) = .ok t := by
  rw [write]
  exact Except.mapM_bind_ok h fun _ => ⟨_, rfl⟩

/-- A mapping with text keys is written whenever each of its values is. -/
theorem write_record_ok (st : Style) {kvs : List (String × Value)}
    (h : ∀ kv ∈ kvs, ∃ t, write st kv.2 = .ok t) : ∃ t, write st (Value.record kvs) = .ok t := by
  rw [Value.record, write]
  refine Except.mapM_bind_ok ?_ fun _ => ⟨_, rfl⟩
  rintro ⟨kv, hkv⟩ -
  obtain ⟨⟨k, v⟩, hmem, rfl⟩ := List.mem_map.1 (mem_orderedEntries hkv)
  obtain ⟨t, ht⟩ := h _ hmem
  refine ⟨quoteText st.asciiOnly k ++ st.keySep ++ t, ?_⟩
  simp only [keyText]
  rw [ht]
  rfl

end Json

namespace Daemon

/-- Each value of a request's configuration is a text, a truth value or a list of texts. -/
theorem mem_config {format : SourceFormat} {fields : CompilerFields} {kv : String × Value}
    (h : kv ∈ ("format", Value.str format.name) :: fields.entries) :
    (∃ s, kv.2 = .str s) ∨ (∃ b, kv.2 = .bool b) ∨
      ∃ l : List String, kv.2 = .list (l.map .str) := by
  simp only [CompilerFields.entries, List.mem_cons, List.mem_append, Option.mem_toList,
    Option.map_eq_some_iff] at h
  rcases h with rfl | ((⟨_, -, rfl⟩ | ⟨_, -, rfl⟩) | ⟨_, -, rfl⟩) | ⟨_, -, rfl⟩
  · exact .inl ⟨_, rfl⟩
  · exact .inl ⟨_, rfl⟩
  · exact .inr (.inl ⟨_, rfl⟩)
  · exact .inl ⟨_, rfl⟩
  · exact .inr (.inr ⟨_, rfl⟩)

/-- The fingerprint of a request that gives none is the digest of its configuration's text. -/
theorem fingerprintOf_of_write {format : SourceFormat} {fields : CompilerFields} {t : String}
    (ht : Json.write fingerprintStyle (.record (("format", .str format.name) :: fields.entries)) =
      .ok t) :
    fingerprintOf none format fields = .ok (Digest.hexDigest t) := by
  simp only [fingerprintOf, nonEmpty, Option.filter_none, configHash, ht]
  rfl

/-- A request that gives no fingerprint always gets one: its configuration is written as JSON. -/
theorem fingerprintOf_ok (format : SourceFormat) (fields : CompilerFields) :
    ∃ hash, fingerprintOf none format fields = .ok hash := by
  have hvalues : ∀ kv ∈ ("format", Value.str format.name) :: fields.entries,
      ∃ t, Json.write fingerprintStyle kv.2 = .ok t := by
    intro kv hkv
    rcases mem_config hkv with ⟨s, hs⟩ | ⟨b, hb⟩ | ⟨l, hl⟩
    · exact ⟨_, hs ▸ Json.write_str _ _⟩
    · exact ⟨_, hb ▸ Json.write_bool _ _⟩
    · refine hl ▸ Json.write_list_ok _ fun x hx => ?_
      obtain ⟨s, -, rfl⟩ := List.mem_map.1 hx
      exact ⟨_, Json.write_str _ _⟩
  obtain ⟨t, ht⟩ := Json.write_record_ok fingerprintStyle hvalues
  exact ⟨Digest.hexDigest t, fingerprintOf_of_write ht⟩

/-- Distinct configurations among `cs` have distinct fingerprints: two of them with one
fingerprint have the same format and set the same compiler fields. A fingerprint is the SHA-256
digest of the configuration's JSON text, so this holds when the digest has no collision on
those texts (`fingerprintsDistinct_of_injOn`). -/
def FingerprintsDistinct (cs : List (SourceFormat × CompilerFields)) : Prop :=
  ∀ p ∈ cs, ∀ q ∈ cs, ∀ h, fingerprintOf none p.1 p.2 = .ok h →
    fingerprintOf none q.1 q.2 = .ok h → p.1 = q.1 ∧ p.2.entries = q.2.entries

theorem fingerprintsDistinct_of_forall_eq {cs : List (SourceFormat × CompilerFields)}
    (c : SourceFormat × CompilerFields) (h : ∀ p ∈ cs, p = c) : FingerprintsDistinct cs := by
  intro p hp q hq _ _ _
  rw [h p hp, h q hq]
  exact ⟨rfl, rfl⟩

end Daemon

/-! ## Fresh caches -/

open Daemon in
/-- Every compiler the cache holds is the one that a configuration among `cs` with the entry's
fingerprint builds in development mode `dev`. -/
def CompilerCache.Fresh (dev : Bool) (cs : List (SourceFormat × CompilerFields))
    (cache : CompilerCache) : Prop :=
  ∀ e ∈ cache.entries, ∃ p ∈ cs, fingerprintOf none p.1 p.2 = .ok e.2.configHash ∧
    Compiler.build (p.2.toOptions.compilerOptions p.1 dev) = .ok e.2.compiler

namespace CompilerCache

theorem mem_put {c : CompilerCache} {k : String} {e : CacheEntry} {ke : String × CacheEntry}
    (h : ke ∈ (c.put k e).entries) : ke.2 = e ∨ ke ∈ c.entries := by
  unfold put at h
  split at h
  · obtain ⟨⟨k', e'⟩, hm, rfl⟩ := List.mem_map.1 h
    by_cases hk : k' == k
    · simp [hk]
    · simp [hk, hm]
  · rcases List.mem_append.1 h with h | h
    · exact Or.inr h
    · exact Or.inl (by simp_all)

theorem mem_of_get? {c : CompilerCache} {group format : String} {e : CacheEntry}
    (h : c.get? group format = some e) : ∃ k, (k, e) ∈ c.entries := by
  unfold get? find? at h
  obtain ⟨ke, hke, rfl⟩ := Option.map_eq_some_iff.1 h
  exact ⟨ke.1, List.mem_of_find?_eq_some hke⟩

/-- A lookup whose build is pure is the lookup in `Id`, returned. -/
theorem getOrBuild_pure_eq {m : Type → Type} [Monad m] [LawfulMonad m] (cache : CompilerCache)
    (group format hash : String) (b : Except Error Compiler) :
    cache.getOrBuild group format hash (pure b : m _) =
      pure (cache.getOrBuild group format hash (pure b : Id _)) := by
  unfold getOrBuild
  split
  · split
    · rfl
    · cases b <;> simp only [pure_bind] <;> rfl
  · cases b <;> simp only [pure_bind] <;> rfl

variable {dev : Bool} {cs : List (SourceFormat × Daemon.CompilerFields)} {cache : CompilerCache}

theorem fresh_empty : ({} : CompilerCache).Fresh dev cs := fun _ h => nomatch h

theorem Fresh.store (hF : cache.Fresh dev cs) {p : SourceFormat × Daemon.CompilerFields}
    (hp : p ∈ cs) {hash : String} {c : Compiler} (hh : Daemon.fingerprintOf none p.1 p.2 = .ok hash)
    (hb : Compiler.build (p.2.toOptions.compilerOptions p.1 dev) = .ok c) (group : String) :
    (cache.store group p.1.name hash c).Fresh dev cs := by
  intro e he
  rcases mem_put he with h | h
  · rw [h]
    exact ⟨p, hp, hh, hb⟩
  · exact hF e h

theorem getOrBuild_hit {m : Type → Type} [Monad m] {cache : CompilerCache} {group : String}
    {format hash : String} {build : m (Except Error Compiler)} {e : CacheEntry}
    (he : cache.get? group format = some e) (hh : (e.configHash == hash) = true) :
    cache.getOrBuild group format hash build = pure (.ok (e.compiler, cache)) := by
  unfold getOrBuild
  rw [he]
  simp only [hh, if_true]

theorem getOrBuild_miss {cache : CompilerCache} {group format hash : String}
    {b : Except Error Compiler}
    (hmiss : ∀ e, cache.get? group format = some e → (e.configHash == hash) = false) :
    (cache.getOrBuild group format hash (pure b) : Id _) =
      b.map fun c => (c, cache.store group format hash c) := by
  unfold getOrBuild
  split
  · next e he =>
    rw [if_neg (by simp [hmiss e he])]
    cases b <;> rfl
  · cases b <;> rfl

/-- A build that misses stores the compiler it built under the fingerprint it was built for. -/
theorem Fresh.store_built (hF : cache.Fresh dev cs) {format : SourceFormat}
    {fields : Daemon.CompilerFields} (hp : (format, fields) ∈ cs) {hash : String}
    (hh : Daemon.fingerprintOf none format fields = .ok hash) (group : String) :
    ∀ c cache', (Compiler.build (fields.toOptions.compilerOptions format dev)).map
        (fun c => (c, cache.store group format.name hash c)) = .ok (c, cache') →
      cache'.Fresh dev cs := by
  intro c cache' h
  rcases hb : Compiler.build (fields.toOptions.compilerOptions format dev) with e | c'
  · rw [hb] at h
    cases h
  · rw [hb] at h
    cases h
    exact hF.store hp hh hb group

/-- A lookup in a fresh cache gives the compiler that a fresh build gives, and leaves the cache
fresh, when the configurations served have distinct fingerprints. -/
theorem getOrBuild_fresh (hF : cache.Fresh dev cs) (hd : Daemon.FingerprintsDistinct cs)
    {format : SourceFormat} {fields : Daemon.CompilerFields} (hp : (format, fields) ∈ cs)
    {hash : String} (hh : Daemon.fingerprintOf none format fields = .ok hash) (group : String) :
    (cache.getOrBuild group format.name hash
        (pure (Compiler.build (fields.toOptions.compilerOptions format dev))) : Id _).map
        Prod.fst = Compiler.build (fields.toOptions.compilerOptions format dev) ∧
    ∀ c cache', (cache.getOrBuild group format.name hash
        (pure (Compiler.build (fields.toOptions.compilerOptions format dev))) : Id _) =
          .ok (c, cache') → cache'.Fresh dev cs := by
  rcases hget : cache.get? group format.name with _ | e
  · rw [getOrBuild_miss fun e he => nomatch hget.symm.trans he]
    refine ⟨?_, hF.store_built hp hh group⟩
    cases Compiler.build (fields.toOptions.compilerOptions format dev) <;> rfl
  · by_cases hhash : (e.configHash == hash) = true
    · -- the cached entry was built for this very configuration
      obtain ⟨k, hk⟩ := mem_of_get? hget
      obtain ⟨q, hq, hqh, hqb⟩ := hF _ hk
      obtain ⟨hformat, hentries⟩ := hd q hq _ hp _ hqh (by rw [hh, beq_iff_eq.1 hhash])
      have hb : Compiler.build (fields.toOptions.compilerOptions format dev) = .ok e.compiler := by
        dsimp only at hformat hentries hqb
        rw [← hformat, ← Daemon.CompilerFields.compilerOptions_eq_of_entries hentries]
        exact hqb
      rw [getOrBuild_hit hget hhash, hb]
      exact ⟨rfl, fun c cache' h => by cases h; exact hF⟩
    · rw [getOrBuild_miss fun e' he' => by
        rw [Option.some.inj (hget.symm.trans he')] at hhash
        simpa using hhash]
      refine ⟨?_, hF.store_built hp hh group⟩
      cases Compiler.build (fields.toOptions.compilerOptions format dev) <;> rfl

end CompilerCache

/-! ## Builds through the service -/

namespace Daemon

/-- A build through the service, on a host held as data: the fingerprint, the lookup of the
compiler, and the document processed with it on the world as it is. -/
theorem runBuild_run_eq (cache : CompilerCache) (settings : Settings) (o : BuildOptions)
    (group collection given : Option String) (fields : CompilerFields) (source : String)
    (w : World) :
    (runBuild cache settings o group collection given fields source : StateM World _).run w =
      match fingerprintOf given o.resolvedFormat fields with
      | .error e => ((.error e, cache), w)
      | .ok hash =>
        match (cache.getOrBuild (groupOf settings group collection) o.resolvedFormat.name hash
            (pure (Compiler.build (o.compilerOptions o.resolvedFormat settings.isDevelopment))) :
              Id _) with
        | .error e => ((.error e, cache), w)
        | .ok (c, cache') =>
          ((((c.process { value := source, path := o.filePath, data := o.documentData } true :
              StateM World _).run w).1.map fun compiled =>
            ⟨compiled, o.resolvedFormat, groupOf settings group collection, hash, o.frontmatter,
              compiled.deps.eraseDups⟩, cache'), w) := by
  unfold runBuild buildDocument
  dsimp only
  rcases fingerprintOf given o.resolvedFormat fields with e | hash
  · rfl
  · simp only [pure_bind]
    rw [CompilerCache.getOrBuild_pure_eq (m := StateM World), pure_bind]
    rcases (cache.getOrBuild (groupOf settings group collection) o.resolvedFormat.name hash
      (pure (Compiler.build (o.compilerOptions o.resolvedFormat settings.isDevelopment))) :
        Id _) with e | ⟨c, cache'⟩
    · rfl
    · obtain ⟨R, hR⟩ := Compiler.process_run c
        { value := source, path := o.filePath, data := o.documentData } true w
      simp only [bind_assoc, StateT.run_bind, hR, pure_bind]
      rfl

section Build

variable {cache : CompilerCache} {settings : Settings} {o : BuildOptions}
  {group collection given : Option String} {fields : CompilerFields}

/-- The answer of a build depends on the cache only through the compiler the lookup gives. -/
theorem runBuild_answer (source : String) (w : World) :
    ((runBuild cache settings o group collection given fields source :
        StateM World _).run w).1.1 =
      match fingerprintOf given o.resolvedFormat fields with
      | .error e => .error e
      | .ok hash =>
        match (cache.getOrBuild (groupOf settings group collection) o.resolvedFormat.name hash
            (pure (Compiler.build (o.compilerOptions o.resolvedFormat settings.isDevelopment))) :
              Id _).map Prod.fst with
        | .error e => .error e
        | .ok c =>
          ((c.process { value := source, path := o.filePath, data := o.documentData } true :
              StateM World _).run w).1.map fun compiled =>
            ⟨compiled, o.resolvedFormat, groupOf settings group collection, hash, o.frontmatter,
              compiled.deps.eraseDups⟩ := by
  rw [runBuild_run_eq]
  rcases fingerprintOf given o.resolvedFormat fields with e | hash
  · rfl
  · dsimp only
    rcases (cache.getOrBuild (groupOf settings group collection) o.resolvedFormat.name hash
      (pure (Compiler.build (o.compilerOptions o.resolvedFormat settings.isDevelopment))) :
        Id _) with e | ⟨c, cache'⟩ <;> rfl

theorem runBuild_world (source : String) (w : World) :
    ((runBuild cache settings o group collection given fields source :
        StateM World _).run w).2 = w := by
  rw [runBuild_run_eq]
  rcases fingerprintOf given o.resolvedFormat fields with e | hash
  · rfl
  · dsimp only
    rcases (cache.getOrBuild (groupOf settings group collection) o.resolvedFormat.name hash
      (pure (Compiler.build (o.compilerOptions o.resolvedFormat settings.isDevelopment))) :
        Id _) with e | ⟨c, cache'⟩ <;> rfl

/-- A build whose lookup finds no entry stores the compiler it built, whatever then becomes of
the document. -/
theorem runBuild_store {hash : String} {c : Compiler}
    (hh : fingerprintOf given o.resolvedFormat fields = .ok hash)
    (hmiss : cache.get? (groupOf settings group collection) o.resolvedFormat.name = none)
    (hc : Compiler.build (o.compilerOptions o.resolvedFormat settings.isDevelopment) = .ok c)
    (source : String) (w : World) :
    ((runBuild cache settings o group collection given fields source :
        StateM World _).run w).1.2 =
      cache.store (groupOf settings group collection) o.resolvedFormat.name hash c := by
  rw [runBuild_run_eq, hh]
  dsimp only
  unfold CompilerCache.getOrBuild
  rw [hmiss]
  dsimp only
  rw [hc]
  rfl

variable {dev : Bool} {cs : List (SourceFormat × CompilerFields)}

/-- A build with the options of a request that gives no fingerprint, from a fresh cache under
settings of its mode, answers as from an empty cache, leaves the cache fresh and the world as it
is. -/
theorem runBuild_fresh (hF : cache.Fresh dev cs) (hd : FingerprintsDistinct cs)
    (hdev : settings.isDevelopment = dev) (hp : (o.resolvedFormat, fields) ∈ cs)
    (hc : o.compiler = fields.toOptions.compiler) (hg : o.given = fields.toOptions.given)
    (source : String) (w : World) :
    ((runBuild cache settings o group collection none fields source :
        StateM World _).run w).1.1 =
        ((runBuild {} settings o group collection none fields source :
          StateM World _).run w).1.1 ∧
      ((runBuild cache settings o group collection none fields source :
        StateM World _).run w).1.2.Fresh dev cs ∧
      ((runBuild cache settings o group collection none fields source :
        StateM World _).run w).2 = w := by
  have hopt : o.compilerOptions o.resolvedFormat settings.isDevelopment =
      fields.toOptions.compilerOptions o.resolvedFormat dev := by
    unfold BuildOptions.compilerOptions
    rw [hc, hg, hdev]
  refine ⟨?_, ?_, runBuild_world source w⟩
  · rw [runBuild_answer, runBuild_answer]
    rcases hh : fingerprintOf none o.resolvedFormat fields with e | hash
    · rfl
    · -- both lookups give the compiler that a fresh build gives
      dsimp only
      rw [hopt, (cache.getOrBuild_fresh hF hd hp hh _).1,
        (CompilerCache.getOrBuild_fresh CompilerCache.fresh_empty hd hp hh _).1]
  · rw [runBuild_run_eq]
    rcases hh : fingerprintOf none o.resolvedFormat fields with e | hash
    · exact hF
    · dsimp only
      rw [hopt]
      have hfresh := (cache.getOrBuild_fresh hF hd hp hh (groupOf settings group collection)).2
      rcases hl : (cache.getOrBuild (groupOf settings group collection) o.resolvedFormat.name hash
        (pure (Compiler.build (fields.toOptions.compilerOptions o.resolvedFormat dev))) :
          Id _) with e | ⟨c, cache'⟩
      · exact hF
      · exact hfresh c cache' hl

end Build

/-! ## Sessions of requests -/

variable {cache : CompilerCache} {settings : Settings} {dev : Bool}
  {cs : List (SourceFormat × CompilerFields)}

/-- A request to the build service: document text, or a document on disk. -/
inductive ServiceRequest where
  | source (r : SourceRequest)
  | file (r : FileRequest)

namespace ServiceRequest

/-- The compiler fields a request sets. -/
def fields : ServiceRequest → CompilerFields
  | .source r => r.fields
  | .file r => r.fields

/-- The fingerprint a request gives. -/
def configHash : ServiceRequest → Option String
  | .source r => r.configHash
  | .file r => r.configHash

/-- The format a request is built in from the working directory `cwd`: the one it names, else
the one its path tells. -/
def format (cwd : String) : ServiceRequest → SourceFormat
  | .source r =>
    ({ r.fields.toOptions with filePath := (nonEmpty r.filePath).map (Path.absolute cwd) } :
      BuildOptions).resolvedFormat
  | .file r =>
    ({ r.fields.toOptions with filePath := some (Path.absolute cwd r.path) } :
      BuildOptions).resolvedFormat

/-- Serves a request from a cache under some settings. -/
def serve (cache : CompilerCache) (settings : Settings) :
    ServiceRequest → StateM World (Except Error Outcome × CompilerCache)
  | .source r => buildSource cache settings r
  | .file r => buildFile cache settings r

theorem buildSource_run (cache : CompilerCache) (settings : Settings) (r : SourceRequest)
    (w : World) :
    (buildSource cache settings r : StateM World _).run w =
      (runBuild cache settings
        { r.fields.toOptions with
          collection := r.collection
          filePath := (nonEmpty r.filePath).map (Path.absolute w.cwd)
          frontmatter := r.frontmatter
          data := r.data }
        r.group r.collection r.configHash r.fields r.source : StateM World _).run w := by
  unfold buildSource
  rw [StateT.run_bind]
  rfl

theorem buildFile_run (cache : CompilerCache) (settings : Settings) (r : FileRequest)
    (w : World) :
    (buildFile cache settings r : StateM World _).run w =
      match w.text (Path.absolute w.cwd r.path) with
      | .error (.os e) => ((.error (.system e.className e.message), cache), w)
      | .error .nullByte => ((.error (.badValue "embedded null byte"), cache), w)
      | .error (.undecodable f) => ((.error (.undecodable f.message), cache), w)
      | .ok text =>
        match FrontMatter.split text (some (Path.absolute w.cwd r.path)) >>= fun f =>
            (matterEntries f.data).map (f, ·) with
        | .error e => ((.error e, cache), w)
        | .ok (matter, data) =>
          (runBuild cache settings
            { r.fields.toOptions with
              collection := r.collection
              filePath := some (Path.absolute w.cwd r.path)
              frontmatter := some data }
            r.group r.collection r.configHash r.fields matter.content : StateM World _).run w := by
  have hcwd : (Host.workingDir : StateM World String).run w = pure (w.cwd, w) := rfl
  have hread : (Host.readText (Path.absolute w.cwd r.path) : StateM World _).run w =
      pure (w.text (Path.absolute w.cwd r.path), w) := World.readText_run w _
  unfold buildFile
  rw [StateT.run_bind, hcwd, pure_bind]
  dsimp only
  rw [StateT.run_bind, hread, pure_bind]
  rcases w.text (Path.absolute w.cwd r.path) with (e | _ | f) | text
  · rfl
  · rfl
  · rfl
  · dsimp only
    rcases FrontMatter.split text (some (Path.absolute w.cwd r.path)) >>= fun f =>
      (matterEntries f.data).map (f, ·) with e | ⟨matter, data⟩
    · rfl
    · rfl

/-- A request that gives no fingerprint, served from a fresh cache under settings of its mode,
gets the answer it gets from an empty cache, and leaves the cache fresh and the world as it is. -/
theorem serve_fresh (hF : cache.Fresh dev cs) (hd : FingerprintsDistinct cs)
    (hdev : settings.isDevelopment = dev) {r : ServiceRequest} (w : World)
    (hp : (r.format w.cwd, r.fields) ∈ cs) (hh : r.configHash = none) :
    ((r.serve cache settings).run w).1.1 = ((r.serve {} settings).run w).1.1 ∧
      ((r.serve cache settings).run w).1.2.Fresh dev cs ∧
      ((r.serve cache settings).run w).2 = w := by
  cases r with
  | source r =>
    simp only [configHash] at hh
    simp only [serve]
    rw [buildSource_run, buildSource_run, hh]
    refine runBuild_fresh hF hd hdev ?_ ?_ ?_ _ _
    · exact hp
    · rfl
    · rfl
  | file r =>
    simp only [configHash] at hh
    simp only [serve]
    rw [buildFile_run, buildFile_run, hh]
    rcases w.text (Path.absolute w.cwd r.path) with (e | _ | f) | text
    · exact ⟨rfl, hF, rfl⟩
    · exact ⟨rfl, hF, rfl⟩
    · exact ⟨rfl, hF, rfl⟩
    · dsimp only
      rcases FrontMatter.split text (some (Path.absolute w.cwd r.path)) >>= fun f =>
        (matterEntries f.data).map (f, ·) with e | ⟨matter, data⟩
      · exact ⟨rfl, hF, rfl⟩
      · dsimp only
        refine runBuild_fresh hF hd hdev ?_ ?_ ?_ _ _
        · exact hp
        · rfl
        · rfl

end ServiceRequest

/-- Serves requests in turn from one cache, each under its own settings: the answers in order
and the cache at the end. -/
def serveAll (cache : CompilerCache) :
    List (Settings × ServiceRequest) → StateM World (List (Except Error Outcome) × CompilerCache)
  | [] => pure ([], cache)
  | (settings, r) :: rest => do
    let (answer, cache) ← r.serve cache settings
    let (answers, cache) ← serveAll cache rest
    return (answer :: answers, cache)

theorem serveAll_cons_run (cache : CompilerCache) (settings : Settings) (r : ServiceRequest)
    (rest : List (Settings × ServiceRequest)) (w : World) :
    (serveAll cache ((settings, r) :: rest)).run w =
      let x := (r.serve cache settings).run w
      let y := (serveAll x.1.2 rest).run x.2
      ((x.1.1 :: y.1.1, y.1.2), y.2) := rfl

/-- Requests that give no fingerprint, served in turn from a fresh cache under settings of one
mode, get the answers they get from an empty cache, and leave the cache fresh and the world as it
is. -/
theorem serveAll_fresh (hd : FingerprintsDistinct cs) (w : World) :
    ∀ (reqs : List (Settings × ServiceRequest)) (cache : CompilerCache), cache.Fresh dev cs →
      (∀ a ∈ reqs, a.1.isDevelopment = dev ∧ a.2.configHash = none ∧
        (a.2.format w.cwd, a.2.fields) ∈ cs) →
      ((serveAll cache reqs).run w).1.1 = reqs.map (fun a => ((a.2.serve {} a.1).run w).1.1) ∧
        ((serveAll cache reqs).run w).1.2.Fresh dev cs ∧ ((serveAll cache reqs).run w).2 = w
  | [], _, hF, _ => ⟨rfl, hF, rfl⟩
  | (settings, r) :: rest, cache, hF, hreqs => by
    obtain ⟨hdev, hh, hp⟩ := hreqs _ List.mem_cons_self
    obtain ⟨hanswer, hfresh, hworld⟩ := r.serve_fresh hF hd hdev w hp hh
    obtain ⟨ih₁, ih₂, ih₃⟩ := serveAll_fresh hd w rest _ hfresh
      fun a ha => hreqs a (List.mem_cons_of_mem _ ha)
    rw [serveAll_cons_run]
    dsimp only
    rw [hworld]
    exact ⟨by rw [hanswer, ih₁]; rfl, ih₂, ih₃⟩

/-- Requests served in turn from one cache in one development mode, with distinct fingerprints,
get the answers of an uncached build. -/
theorem shared_cache_serves_fresh_compilers (reqs : List (Settings × ServiceRequest)) (w : World)
    (dev : Bool) (hdev : ∀ a ∈ reqs, a.1.isDevelopment = dev)
    (hunset : ∀ a ∈ reqs, a.2.configHash = none)
    (hd : FingerprintsDistinct (reqs.map fun a => (a.2.format w.cwd, a.2.fields))) :
    ((serveAll {} reqs).run w).1.1 = reqs.map (fun a => ((a.2.serve {} a.1).run w).1.1) ∧
    ∀ pre a post, reqs = pre ++ a :: post →
      ∀ hash, fingerprintOf none (a.2.format w.cwd) a.2.fields = .ok hash → ∀ group,
        (((serveAll {} pre).run w).1.2.getOrBuild group (a.2.format w.cwd).name hash
            (pure (Compiler.build (a.2.fields.toOptions.compilerOptions (a.2.format w.cwd)
              a.1.isDevelopment))) : Id _).map Prod.fst =
          Compiler.build (a.2.fields.toOptions.compilerOptions (a.2.format w.cwd)
            a.1.isDevelopment) := by
  have hreqs : ∀ a ∈ reqs, a.1.isDevelopment = dev ∧ a.2.configHash = none ∧
      (a.2.format w.cwd, a.2.fields) ∈ reqs.map fun a => (a.2.format w.cwd, a.2.fields) :=
    fun a ha => ⟨hdev a ha, hunset a ha, List.mem_map_of_mem ha⟩
  refine ⟨(serveAll_fresh hd w reqs {} CompilerCache.fresh_empty hreqs).1, ?_⟩
  intro pre a post hsplit hash hh group
  -- the requests before `a` leave a cache of compilers built in mode `dev`, and `a` looks in it
  have hpre := (serveAll_fresh hd w pre {} CompilerCache.fresh_empty fun b hb =>
    hreqs b (by rw [hsplit]; exact List.mem_append_left _ hb)).2.1
  obtain ⟨ha, -, hp⟩ := hreqs a (by rw [hsplit]; exact List.mem_append_right _ List.mem_cons_self)
  rw [ha]
  exact (CompilerCache.getOrBuild_fresh hpre hd hp hh group).1

theorem repeated_request_served_fresh :
    let reqs : List (Settings × ServiceRequest) :=
      [({}, .source { fields := {}, source := "" }), ({}, .source { fields := {}, source := "" })]
    ((serveAll {} reqs).run {}).1.1 = reqs.map (fun a => ((a.2.serve {} a.1).run {}).1.1) :=
  (shared_cache_serves_fresh_compilers _ {} false (by simp [Settings.isDevelopment])
    (by simp [ServiceRequest.configHash])
    (fingerprintsDistinct_of_forall_eq (.mdx, {}) fun p hp => by
      simp only [List.map, List.mem_cons, List.not_mem_nil, or_false, or_self] at hp
      rw [hp]
      rfl)).1

/-- After a request under development settings, the same request under production settings
looks up, under its fingerprint, the compiler built in development mode: its options are not
those of a new compiler for production. -/
theorem shared_cache_keeps_development_mode :
    let r : ServiceRequest := .source { fields := {}, source := "" }
    let cache := ((serveAll {} [({ environment := "development" }, r)]).run {}).1.2
    ∃ hash, fingerprintOf none .mdx r.fields = .ok hash ∧ ∃ c,
      (cache.getOrBuild "default" "mdx" hash
          (pure (Compiler.build (r.fields.toOptions.compilerOptions .mdx false))) : Id _).map
          Prod.fst = .ok c ∧
        c.options ≠ r.fields.toOptions.compilerOptions .mdx false := by
  intro r cache
  obtain ⟨hash, hh⟩ := fingerprintOf_ok .mdx r.fields
  obtain ⟨c, hc⟩ : ∃ c, Compiler.build (r.fields.toOptions.compilerOptions .mdx true) = .ok c :=
    ⟨_, rfl⟩
  have hcache : cache = ({} : CompilerCache).store "default" "mdx" hash c := by
    show ((serveAll {} _).run {}).1.2 = _
    rw [serveAll_cons_run]
    show ((r.serve {} _).run {}).1.2 = _
    simp only [r, ServiceRequest.serve]
    rw [ServiceRequest.buildSource_run]
    exact runBuild_store hh rfl hc _ _
  refine ⟨hash, hh, c, ?_, ?_⟩
  · -- the second request, under production settings, finds that compiler under its fingerprint
    rw [hcache]
    simp [CompilerCache.getOrBuild, CompilerCache.get?, CompilerCache.find?, CompilerCache.store,
      CompilerCache.put]
    rfl
  · rw [Compiler.options_of_build hc]
    intro h
    exact absurd (congrArg CompilerOptions.development h) (by decide)

end Daemon

end Manuscript
