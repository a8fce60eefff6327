import Manuscript.Yaml.Event
import Manuscript.Yaml.Tag

/-!
# Nodes of a YAML document

A document is a tree of nodes: scalars with their text, sequences of nodes and mappings of
nodes to nodes, each with a tag and the mark where it starts. An anchor names a node so that
an alias can repeat it later in the same document; here the alias is replaced by the node it
names. An alias to a collection that is still open, one that would contain itself, becomes an
`unfinished` node.

`Node.ofText` reads the single document of a text: no document gives `none`, and a second one
is a problem. An alias to an unknown anchor, and a second node with the anchor of an earlier
one, are problems too.
-/

namespace Manuscript.Yaml

/-- The kinds of collections. -/
inductive CollectionKind where
  | sequence
  | mapping
  deriving Inhabited, Repr, DecidableEq

/-- The name of a kind of collection, as problems name it. -/
def CollectionKind.name : CollectionKind → String
  | .sequence => "sequence"
  | .mapping => "mapping"

/-- A node of a YAML document. -/
inductive Node where
  | scalar (tag : String) (text : String) (start : Mark)
  | sequence (tag : String) (items : List Node) (start : Mark)
  | mapping (tag : String) (entries : List (Node × Node)) (start : Mark)
  /-- A collection repeated inside itself. -/
  | unfinished (kind : CollectionKind) (tag : String) (start : Mark)
  deriving Inhabited, Repr

namespace Node

/-- The tag of a node. -/
def tag : Node → String
  | .scalar t .. | .sequence t .. | .mapping t .. | .unfinished _ t _ => t

/-- Where a node starts. -/
def start : Node → Mark
  | .scalar _ _ m | .sequence _ _ m | .mapping _ _ m | .unfinished _ _ m => m

/-- The kind of a node, as problems name it. -/
def kindName : Node → String
  | .scalar .. => "scalar"
  | .sequence .. => "sequence"
  | .mapping .. => "mapping"
  | .unfinished k _ _ => k.name

/-- The node with another tag. -/
def withTag (t : String) : Node → Node
  | .scalar _ s m => .scalar t s m
  | .sequence _ items m => .sequence t items m
  | .mapping _ entries m => .mapping t entries m
  | .unfinished k _ m => .unfinished k t m

mutual

/-- The number of levels of a node. -/
def height : Node → Nat
  | .sequence _ items _ => heightOfItems items + 1
  | .mapping _ entries _ => heightOfEntries entries + 1
  | _ => 1

/-- The greatest height of a list of nodes. -/
def heightOfItems : List Node → Nat
  | [] => 0
  | n :: rest => max (height n) (heightOfItems rest)

/-- The greatest height of the keys and values of entries. -/
def heightOfEntries : List (Node × Node) → Nat
  | [] => 0
  | (k, v) :: rest => max (max (height k) (height v)) (heightOfEntries rest)

end

end Node

/-- What an anchor names: a finished node, or a collection still open. -/
inductive Anchored where
  | done (n : Node)
  | pending (kind : CollectionKind) (tag : String) (start : Mark)
  deriving Inhabited

/-- The start of what an anchor names. -/
def Anchored.start : Anchored → Mark
  | .done n => n.start
  | .pending _ _ m => m

/-- The state of composing: the events, and the anchors of the document. -/
structure Composer where
  reader : EventReader
  anchors : List (String × Anchored)
  deriving Inhabited

/-- Composing, which may stop at a problem. -/
abbrev Compose := StateT Composer (Except LoadError)

namespace Composer

/-- Runs a step of the event reader. -/
def read {α : Type} (m : Read α) : Compose α := fun s => do
  let (a, r) ← m.run s.reader
  return (a, { s with reader := r })

/-- The next event. -/
def peekEvent : Compose Event := read EventReader.peekEvent

/-- Takes the next event. -/
def nextEvent : Compose Event := read EventReader.nextEvent

/-- Stops at a problem. -/
def fail {α : Type} (p : Problem) : Compose α := throw (.marked p)

/-- Refuses an anchor that names an earlier node. -/
def checkAnchor (anchor : Option String) (m : Mark) : Compose Unit := do
  match anchor with
  | some a =>
    match (← get).anchors.lookup a with
    | some first =>
      fail (.within ("found duplicate anchor " ++ Text.quote a ++ "; first occurrence") first.start
        "second occurrence" m)
    | none => pure ()
  | none => pure ()

/-- Names a node by an anchor. -/
def register (anchor : Option String) (a : Anchored) : Compose Unit :=
  match anchor with
  | some name => modify fun s =>
    { s with anchors := (s.anchors.filter (·.1 != name)) ++ [(name, a)] }
  | none => pure ()

/-- The tag of a collection: the given one, or the default of its kind when none or `!` is
given. -/
def collectionTag (tag : Option String) (default : String) : String :=
  match tag with
  | some t => if t == "!" then default else t
  | none => default

/-- Whether the next event ends a collection. -/
def atCollectionEnd : Compose Bool := do
  match (← peekEvent).kind with
  | .sequenceEnd | .mappingEnd => return true
  | _ => return false

mutual

/-- Composes the node whose events come next. -/
def node : Nat → Compose Node
  | 0 => throw .recursive
  | fuel + 1 => do
    let e ← peekEvent
    match e.kind with
    | .alias name =>
      discard nextEvent
      match (← get).anchors.lookup name with
      | some (.done n) => return n
      | some (.pending k t m) => return .unfinished k t m
      | none => fail (.plain ("found undefined alias " ++ Text.quote name) e.start)
    | .scalar anchor tag implicit text =>
      checkAnchor anchor e.start
      discard nextEvent
      let t := match tag with
        | some t => if t == "!" then Tag.ofScalar text implicit.1 else t
        | none => Tag.ofScalar text implicit.1
      let n := Node.scalar t text e.start
      register anchor (.done n)
      return n
    | .sequenceStart anchor tag =>
      checkAnchor anchor e.start
      discard nextEvent
      let t := collectionTag tag Tag.seq
      register anchor (.pending .sequence t e.start)
      let items ← items fuel
      discard nextEvent
      let n := Node.sequence t items e.start
      register anchor (.done n)
      return n
    | .mappingStart anchor tag =>
      checkAnchor anchor e.start
      discard nextEvent
      let t := collectionTag tag Tag.map
      register anchor (.pending .mapping t e.start)
      let entries ← entries fuel
      discard nextEvent
      let n := Node.mapping t entries e.start
      register anchor (.done n)
      return n
    | _ => throw .recursive

/-- Composes the items of a sequence, up to its end. -/
def items : Nat → Compose (List Node)
  | 0 => pure []
  | fuel + 1 => do
    if ← atCollectionEnd then return []
    let n ← node fuel
    return n :: (← items fuel)

/-- Composes the entries of a mapping, up to its end. -/
def entries : Nat → Compose (List (Node × Node))
  | 0 => pure []
  | fuel + 1 => do
    if ← atCollectionEnd then return []
    let k ← node fuel
    let v ← node fuel
    return (k, v) :: (← entries fuel)

end

/-- Composes the single document of the stream, if there is one. -/
def single (fuel : Nat) : Compose (Option Node) := do
  discard nextEvent
  let isEnd : Compose Bool := do
    match (← peekEvent).kind with
    | .streamEnd => return true
    | _ => return false
  let doc ←
    if ← isEnd then pure none
    else do
      discard nextEvent
      let n ← node fuel
      discard nextEvent
      modify fun s => { s with anchors := [] }
      pure (some n)
  if !(← isEnd) then
    let e ← nextEvent
    let first := (doc.map Node.start).getD e.start
    fail (.within "expected a single document in the stream" first "but found another document"
      e.start)
  discard nextEvent
  return doc

end Composer

/-- The node of the single document of a text, if it has one. -/
def Node.ofText (text : String) : Except LoadError (Option Node) := do
  acceptable text
  let fuel := 8 * (text.length + 4)
  let (n, _) ← (Composer.single fuel).run ⟨EventReader.ofText text, []⟩
  return n

end Manuscript.Yaml
