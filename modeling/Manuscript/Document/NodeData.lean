import Manuscript.Data.Value
import Manuscript.Document.Node

/-!
# Trees as data

A tree is exchanged as a mapping: `type`, then `children` when there are any, each optional
field when present, `attributes` when there are any, `position` when known and `data` when not
empty. `Node.toValue` writes that form and `Node.ofValue?` reads it back, taking defaults for
missing keys.
-/

namespace Manuscript

namespace Position

/-- A position as a mapping. -/
def toValue (p : Position) : Value :=
  Value.record [("start_line", .int p.startLine), ("end_line", .int p.endLine),
    ("path", match p.path with | some s => .str s | none => .null)]

/-- A position from a mapping. -/
def ofValue? (v : Value) : Option Position := do
  let start ← match v.field? "start_line" with | some (.int n) => some n | _ => none
  let stop ← match v.field? "end_line" with | some (.int n) => some n | _ => none
  let path := match v.field? "path" with | some (.str s) => some s | _ => none
  return ⟨start, stop, path⟩

end Position

namespace Attribute

/-- An attribute as a mapping. -/
def toValue (a : Attribute) : Value :=
  Value.record [("name", .str a.name),
    ("value", match a.value with | some s => .str s | none => .null),
    ("expression", .bool a.expression)]

/-- An attribute from a mapping. -/
def ofValue? (v : Value) : Option Attribute := do
  let name ← match v.field? "name" with | some (.str s) => some s | _ => none
  let value := match v.field? "value" with | some (.str s) => some s | _ => none
  let expression := match v.field? "expression" with | some (.bool b) => b | _ => false
  return { name, value, expression }

end Attribute

namespace Node

/-- An optional text field as an entry. -/
def textEntry (key : String) : Option String → List (String × Value)
  | some s => [(key, .str s)]
  | none => []

/-- A tree as a mapping. -/
def toValue (n : Node) : Value :=
  Value.record <|
    [("type", .str n.kind.name)] ++
    (if n.children.isEmpty then [] else [("children", .list (n.children.map toValue))]) ++
    textEntry "value" n.value ++ textEntry "name" n.name ++
    (n.depth.map fun d => [("depth", Value.int d)]).getD [] ++
    (n.ordered.map fun b => [("ordered", Value.bool b)]).getD [] ++
    (n.start.map fun s => [("start", Value.int s)]).getD [] ++
    textEntry "lang" n.lang ++ textEntry "url" n.url ++ textEntry "title" n.title ++
    textEntry "alt" n.alt ++ textEntry "align" n.align ++
    (if n.attributes.isEmpty then []
     else [("attributes", .list (n.attributes.map Attribute.toValue))]) ++
    (n.position.map fun p => [("position", p.toValue)]).getD [] ++
    (if n.data.isEmpty then [] else [("data", Value.record n.data)])
termination_by n
decreasing_by exact sizeOf_lt_of_mem_children ‹_›

/-- An optional text field of a mapping. -/
def textField (v : Value) (key : String) : Option String :=
  match v.field? key with
  | some (.str s) => some s
  | _ => none

/-- A tree from a mapping, at most `depth` levels deep. -/
def ofValueAt : Nat → Value → Option Node
  | 0, _ => none
  | depth + 1, v => do
    let kind ← textField v "type"
    let children ← match v.field? "children" with
      | some (.list xs) => xs.mapM (ofValueAt depth)
      | _ => some []
    let attributes ← match v.field? "attributes" with
      | some (.list xs) => xs.mapM Attribute.ofValue?
      | _ => some []
    return {
      kind := NodeKind.ofName kind, children,
      value := textField v "value", name := textField v "name", attributes,
      depth := match v.field? "depth" with | some (.int d) => some d | _ => none,
      ordered := match v.field? "ordered" with | some (.bool b) => some b | _ => none,
      start := match v.field? "start" with | some (.int s) => some s | _ => none,
      lang := textField v "lang", url := textField v "url", title := textField v "title",
      alt := textField v "alt", align := textField v "align",
      position := v.field? "position" >>= Position.ofValue?,
      data := match v.field? "data" >>= Value.textEntries? with
        | some es => es
        | none => [] }

/-- The depth of nesting of a value. -/
def valueDepth : Value → Nat
  | .list xs => 1 + (xs.map valueDepth).foldl max 0
  | .set xs => 1 + (xs.map valueDepth).foldl max 0
  | .dict kvs => 1 + (kvs.map fun kv => max (valueDepth kv.1) (valueDepth kv.2)).foldl max 0
  | _ => 1
decreasing_by
  · exact Value.sizeOf_lt_list ‹_›
  · exact Value.sizeOf_lt_set ‹_›
  · exact Value.sizeOf_fst_lt_dict ‹_›
  · exact Value.sizeOf_snd_lt_dict ‹_›

/-- A tree from a mapping. -/
def ofValue? (v : Value) : Option Node :=
  ofValueAt (valueDepth v + 1) v

end Node

end Manuscript
