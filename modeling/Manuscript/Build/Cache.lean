import Manuscript.Compiler.Basic
import Manuscript.Data.Json
import Manuscript.Digest.Sha256

/-!
# The compiler cache

Building a compiler attaches every plugin, so compilers are kept per group and format and
reused while the fingerprint of their configuration stays the same. A lookup with another
fingerprint builds a new compiler and replaces the entry; a build that fails leaves the entry
as it was.

The fingerprint of a configuration is the SHA-256 digest of its compact JSON text with sorted
keys and ASCII-only strings, so equal configurations have equal fingerprints, and `1` and `1.0`
differ.

Each compiler the cache builds gets the next serial number, so a caller can tell a rebuilt
compiler from the one it replaced.
-/

namespace Manuscript

/-- The JSON form of a configuration that its fingerprint digests. -/
def fingerprintStyle : Json.Style := ⟨",", ":", true, true⟩

/-- The fingerprint of a configuration mapping. -/
def configHash (config : List (String × Value)) : Except Error String :=
  (Json.write fingerprintStyle (Value.record config)).map Digest.hexDigest

/-- A cached compiler, the fingerprint it was built with, and its serial number. -/
structure CacheEntry where
  compiler : Compiler
  configHash : String
  serial : Nat
  deriving Inhabited

/-- Compilers by key `group:format`, in the order the keys were first filled, and the number
of compilers built so far. -/
structure CompilerCache where
  entries : List (String × CacheEntry) := []
  built : Nat := 0
  deriving Inhabited

namespace CompilerCache

/-- The key of a group and format. -/
def key (group format : String) : String := group ++ ":" ++ format

/-- The entry under a key. -/
def find? (c : CompilerCache) (k : String) : Option CacheEntry :=
  (c.entries.find? (·.1 == k)).map (·.2)

/-- The entry of a group and format. -/
def get? (c : CompilerCache) (group format : String) : Option CacheEntry :=
  c.find? (key group format)

/-- Sets the entry under a key, in place when the key is already filled. -/
def put (c : CompilerCache) (k : String) (e : CacheEntry) : CompilerCache :=
  if c.entries.any (·.1 == k) then
    { c with entries := c.entries.map fun (k', e') => if k' == k then (k', e) else (k', e') }
  else { c with entries := c.entries ++ [(k, e)] }

/-- Stores a compiler built for a group, format and fingerprint under the next serial number. -/
def store (c : CompilerCache) (group format hash : String) (compiler : Compiler) :
    CompilerCache :=
  let serial := c.built + 1
  { c.put (key group format) ⟨compiler, hash, serial⟩ with built := serial }

/-- The cached compiler of a group and format when its fingerprint is `hash`; otherwise the
compiler that `build` gives, which then replaces the entry. A build that fails leaves the cache
as it was. -/
def getOrBuild {m : Type → Type} [Monad m] (c : CompilerCache) (group format hash : String)
    (build : m (Except Error Compiler)) :
    m (Except Error (Compiler × CompilerCache)) := do
  match c.get? group format with
  | some e => if e.configHash == hash then return .ok (e.compiler, c)
  | none => pure ()
  match ← build with
  | .error e => return .error e
  | .ok compiler => return .ok (compiler, c.store group format hash compiler)

/-- Drops every entry; the number of entries dropped. -/
def clear (c : CompilerCache) : Nat × CompilerCache := (c.entries.length, { c with entries := [] })

/-- The number of entries. -/
def size (c : CompilerCache) : Nat := c.entries.length

/-- Whether a key is filled. -/
def contains (c : CompilerCache) (k : String) : Bool := c.entries.any (·.1 == k)

end CompilerCache

end Manuscript
