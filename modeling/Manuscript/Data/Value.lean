/-!
# Data values

Front matter, option mappings and the free-form data that travels with a document are dynamic
values: the scalars of a data file (null, booleans, integers of any size, binary64 floats,
strings, bytes, calendar dates and timestamps), sequences, sets and mappings whose keys are
themselves values. Option mappings may also hold plugins, which are functions; a plugin is
described by what attaching it to a compiler gives.

Mappings keep their entries in insertion order.
-/

namespace Manuscript

/-- A plugin, named by what attaching it to a compiler gives: the include transform, no
transform at all, or a value that is not a transform. -/
inductive Plugin where
  | include
  | inert (name : String)
  | broken (name : String)
  deriving Inhabited, Repr, DecidableEq

namespace Plugin

/-- The function name of a plugin. -/
def name : Plugin → String
  | .include => "remark_include"
  | .inert n => n
  | .broken n => n

end Plugin

/-- A calendar date. -/
structure Date where
  year : Nat
  month : Nat
  day : Nat
  deriving Inhabited, Repr, DecidableEq

/-- A date with a time of day, to the microsecond, and an optional offset from UTC in
minutes. -/
structure Timestamp where
  date : Date
  hour : Nat
  minute : Nat
  second : Nat
  micro : Nat
  offset : Option Int
  deriving Inhabited, Repr, DecidableEq

/-- Sets the value of a key among entries: in place when the key is there, else at the end, as
a mapping that keeps insertion order does. -/
def putEntry {α β : Type} [BEq α] (entries : List (α × β)) (k : α) (v : β) : List (α × β) :=
  if entries.any (·.1 == k) then entries.map fun (k', v') => if k' == k then (k', v) else (k', v')
  else entries ++ [(k, v)]

/-- A dynamic value. -/
inductive Value where
  | null
  | bool (b : Bool)
  | int (n : Int)
  | float (x : Float)
  | str (s : String)
  | bytes (b : List UInt8)
  | date (d : Date)
  | timestamp (t : Timestamp)
  | list (xs : List Value)
  | set (xs : List Value)
  | dict (entries : List (Value × Value))
  | callable (p : Plugin)
  deriving Inhabited, Repr

namespace Value

theorem sizeOf_lt_list {x : Value} {xs : List Value} (h : x ∈ xs) :
    sizeOf x < sizeOf (Value.list xs) := by
  have := List.sizeOf_lt_of_mem h
  simp only [Value.list.sizeOf_spec]
  omega

theorem sizeOf_lt_set {x : Value} {xs : List Value} (h : x ∈ xs) :
    sizeOf x < sizeOf (Value.set xs) := by
  have := List.sizeOf_lt_of_mem h
  simp only [Value.set.sizeOf_spec]
  omega

theorem sizeOf_fst_lt_dict {kv : Value × Value} {kvs : List (Value × Value)} (h : kv ∈ kvs) :
    sizeOf kv.1 < sizeOf (Value.dict kvs) := by
  have := List.sizeOf_lt_of_mem h
  obtain ⟨k, v⟩ := kv
  simp only [Prod.mk.sizeOf_spec] at this
  simp only [Value.dict.sizeOf_spec]
  omega

theorem sizeOf_snd_lt_dict {kv : Value × Value} {kvs : List (Value × Value)} (h : kv ∈ kvs) :
    sizeOf kv.2 < sizeOf (Value.dict kvs) := by
  have := List.sizeOf_lt_of_mem h
  obtain ⟨k, v⟩ := kv
  simp only [Prod.mk.sizeOf_spec] at this
  simp only [Value.dict.sizeOf_spec]
  omega

/-- Whether a value counts as true in a condition: everything but null, false, zero, and empty
text, bytes and collections. -/
def truthy : Value → Bool
  | .null => false
  | .bool b => b
  | .int n => n != 0
  | .float x => x != 0.0
  | .str s => !s.isEmpty
  | .bytes b => !b.isEmpty
  | .list xs => !xs.isEmpty
  | .set xs => !xs.isEmpty
  | .dict kvs => !kvs.isEmpty
  | _ => true

/-- The name of the kind of a value, as messages name it. -/
def typeName : Value → String
  | .null => "NoneType"
  | .bool _ => "bool"
  | .int _ => "int"
  | .float _ => "float"
  | .str _ => "str"
  | .bytes _ => "bytes"
  | .date _ => "date"
  | .timestamp _ => "datetime"
  | .list _ => "list"
  | .set _ => "set"
  | .dict _ => "dict"
  | .callable _ => "function"

/-- Whether a value holds a NaN or an infinite float anywhere, in keys too. -/
def hasNonFinite : Value → Bool
  | .float x => x.isNaN || x.isInf
  | .list xs => xs.attach.any fun ⟨x, _⟩ => hasNonFinite x
  | .set xs => xs.attach.any fun ⟨x, _⟩ => hasNonFinite x
  | .dict kvs => kvs.attach.any fun ⟨kv, _⟩ => hasNonFinite kv.1 || hasNonFinite kv.2
  | _ => false
decreasing_by
  · exact sizeOf_lt_list ‹_›
  · exact sizeOf_lt_set ‹_›
  · exact sizeOf_fst_lt_dict ‹_›
  · exact sizeOf_snd_lt_dict ‹_›

/-- A mapping with text keys. -/
def record (entries : List (String × Value)) : Value :=
  .dict (entries.map fun (k, v) => (.str k, v))

/-- The entries of a mapping whose keys are all text, in order. -/
def textEntries? : Value → Option (List (String × Value))
  | .dict entries => entries.mapM fun (k, v) =>
    match k with
    | .str s => some (s, v)
    | _ => none
  | _ => none

/-- The value stored under a text key of a mapping. -/
def field? (v : Value) (key : String) : Option Value :=
  match v with
  | .dict entries => (entries.find? fun (k, _) =>
      match k with
      | .str s => s == key
      | _ => false).map (·.2)
  | _ => none

end Value

end Manuscript
