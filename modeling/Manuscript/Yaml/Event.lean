import Manuscript.Yaml.Token.Lexer

/-!
# Events of YAML text

The tokens of a text describe a stream of documents, each a tree of nodes. Read in order, that
tree is a sequence of events: the stream and each document start and end, a collection starts,
its entries follow, and it ends; a scalar or an alias is one event. A node may carry an anchor
and a tag; a scalar records whether its tag may be resolved from its text (a plain scalar) or
only defaults to a string (a quoted or block one).

`EventReader` produces the events one at a time from the token stream. Its state is the stack
of grammar positions still open: after a block mapping's key comes its value, after a flow
sequence's entry the next entry or the end. A key or value that is left out reads as an empty
plain scalar. Tag handles expand through the `%TAG` directives of the document, and `!` and
`!!` always mean themselves and the standard YAML tags.
-/

namespace Manuscript.Yaml

namespace Event

/-- The kinds of events. -/
inductive Kind where
  | streamStart
  | streamEnd
  | documentStart
  | documentEnd
  | alias (anchor : String)
  /-- A scalar; `implicit` tells whether a tag may be resolved from a plain text, and
  whether a non-plain one takes the default tag. -/
  | scalar (anchor : Option String) (tag : Option String) (implicit : Bool × Bool) (value : String)
  | sequenceStart (anchor : Option String) (tag : Option String)
  | sequenceEnd
  | mappingStart (anchor : Option String) (tag : Option String)
  | mappingEnd
  deriving Inhabited, Repr

end Event

/-- An event and where it starts. -/
structure Event where
  kind : Event.Kind
  start : Mark
  deriving Inhabited, Repr

/-- The grammar positions of the event reader. -/
inductive GrammarStep where
  | streamStart
  | implicitDocumentStart
  | documentStart
  | documentEnd
  | documentContent
  | blockNode
  | blockSequenceFirstEntry
  | blockSequenceEntry
  | indentlessSequenceEntry
  | blockMappingFirstKey
  | blockMappingKey
  | blockMappingValue
  | flowSequenceFirstEntry
  | flowSequenceEntry
  | flowSequenceEntryMappingKey
  | flowSequenceEntryMappingValue
  | flowSequenceEntryMappingEnd
  | flowMappingFirstKey
  | flowMappingKey
  | flowMappingValue
  | flowMappingEmptyValue
  deriving Inhabited, Repr, DecidableEq

/-- The state of the event reader. -/
structure EventReader where
  lexer : Lexer
  /-- An event read ahead and not yet handed out. -/
  current : Option Event
  /-- The next grammar position; `none` after the stream end. -/
  step : Option GrammarStep
  /-- The grammar positions to return to, innermost first. -/
  steps : List GrammarStep
  /-- The starts of the open collections, innermost first. -/
  marks : List Mark
  /-- The tag handles of the document and their expansions. -/
  tagHandles : List (String × String)
  deriving Inhabited

/-- Reading events, which may stop at a problem. -/
abbrev Read := StateT EventReader (Except LoadError)

/-- The tag handles every document knows. -/
def defaultTagHandles : List (String × String) := [("!", "!"), ("!!", "tag:yaml.org,2002:")]

namespace EventReader

/-- The reader of a text. -/
def ofText (text : String) : EventReader :=
  ⟨Lexer.ofText text, none, some .streamStart, [], [], []⟩

/-- Runs a step of the token stream. -/
def lex {α : Type} (m : Lex α) : Read α := fun s => do
  let (a, l) ← m.run s.lexer
  return (a, { s with lexer := l })

/-- The next token. -/
def peekToken : Read Token := lex Lexer.peekToken

/-- Takes the next token. -/
def nextToken : Read Token := lex Lexer.nextToken

/-- Whether the next token is of one of the classes. -/
def nextIs (classes : List TokenClass) : Read Bool := lex (Lexer.nextIs classes)

/-- Sets the next grammar position. -/
def goTo (g : GrammarStep) : Read Unit := modify fun s => { s with step := some g }

/-- Pushes a position to return to. -/
def pushStep (g : GrammarStep) : Read Unit := modify fun s => { s with steps := g :: s.steps }

/-- Returns to the innermost pushed position. -/
def popStep : Read Unit := modify fun s =>
  match s.steps with
  | g :: rest => { s with step := some g, steps := rest }
  | [] => { s with step := none }

/-- Records the start of a collection. -/
def pushMark (m : Mark) : Read Unit := modify fun s => { s with marks := m :: s.marks }

/-- Forgets the start of the innermost collection. -/
def popMark : Read Unit := modify fun s => { s with marks := s.marks.drop 1 }

/-- The start of the innermost collection. -/
def innermostMark : Read Mark := do
  return ((← get).marks.head?).getD ⟨0, 0, 0⟩

/-- Stops at a problem. -/
def fail {α : Type} (p : Problem) : Read α := throw (.marked p)

/-- An empty plain scalar at a mark. -/
def emptyScalar (m : Mark) : Event := ⟨.scalar none none (true, false) "", m⟩

/-- Reads the directives before an explicit document, and sets the document's tag handles. -/
def directives : Read Unit := do
  let rec go : Nat → Bool → List (String × String) → Read (List (String × String))
    | 0, _, handles => pure handles
    | fuel + 1, seenVersion, handles => do
      if !(← nextIs [.directive]) then return handles
      let t ← nextToken
      match t.kind with
      | .directive "YAML" (.version major _) =>
        if seenVersion then fail (.plain "found duplicate YAML directive" t.start)
        if major != 1 then
          fail (.plain "found incompatible YAML document (version 1.* is required)" t.start)
        go fuel true handles
      | .directive "TAG" (.tagHandle handle expansion) =>
        if (handles.lookup handle).isSome then
          fail (.plain ("duplicate tag handle " ++ Text.quote handle) t.start)
        go fuel seenVersion (handles ++ [(handle, expansion)])
      | _ => go fuel seenVersion handles
  let handles ← go ((← get).lexer.cursor.left + 1) false []
  let missing := defaultTagHandles.filter fun (h, _) => (handles.lookup h).isNone
  modify fun s => { s with tagHandles := handles ++ missing }

/-- The quoted name of the next token, for problems. -/
def nextName : Read String := return Text.quote (← peekToken).kind.name

/-- The anchor of a node, if the next token is one: its name and start. -/
def anchorProperty : Read (Option (String × Mark)) := do
  let t ← peekToken
  match t.kind with
  | .anchor name =>
    discard nextToken
    return some (name, t.start)
  | _ => return none

/-- The tag of a node, if the next token is one: its handle, suffix and start. -/
def tagProperty : Read (Option (Option String × String × Mark)) := do
  let t ← peekToken
  match t.kind with
  | .tag handle suffix =>
    discard nextToken
    return some (handle, suffix, t.start)
  | _ => return none

/-- The anchor and the tag of a node, in either order, with the start of the first and of the
tag. -/
def properties : Read (Option String × Option (Option String × String) × Option Mark × Option Mark) := do
  match ← anchorProperty with
  | some (name, s) =>
    match ← tagProperty with
    | some (handle, suffix, tm) => pure (some name, some (handle, suffix), some s, some tm)
    | none => pure (some name, none, some s, none)
  | none =>
    match ← tagProperty with
    | some (handle, suffix, tm) =>
      match ← anchorProperty with
      | some (name, _) => pure (some name, some (handle, suffix), some tm, some tm)
      | none => pure (none, some (handle, suffix), some tm, some tm)
    | none => pure (none, none, none, none)

/-- Reads a node: an alias, or a scalar or collection with its anchor and tag. `block` allows
block collections; `indentless` allows a sequence of `-` entries at the indentation of the
mapping key whose value it is. A node with an anchor or a tag and no content is an empty
scalar. -/
def node (block indentless : Bool) : Read Event := do
  let t ← peekToken
  if let .alias name := t.kind then
    discard nextToken
    popStep
    return ⟨.alias name, t.start⟩
  let (anchor, tagParts, start?, tagMark?) ← properties
  let handles := (← get).tagHandles
  let tag ← match tagParts with
    | some (some handle, suffix) =>
      match handles.lookup handle with
      | some expansion => pure (some (expansion ++ suffix))
      | none =>
        fail (.within "while parsing a node" (start?.getD t.start)
          ("found undefined tag handle " ++ Text.quote handle) (tagMark?.getD t.start))
    | some (none, suffix) => pure (some suffix)
    | none => pure none
  let t ← peekToken
  let start := start?.getD t.start
  let nonSpecific := tag.isNone || tag == some "!"
  match t.kind with
  | .blockEntry =>
    if indentless then
      goTo .indentlessSequenceEntry
      return ⟨.sequenceStart anchor tag, start⟩
  | .scalar text style =>
    discard nextToken
    let implicit :=
      if (style == .plain && tag.isNone) || tag == some "!" then (true, false)
      else if tag.isNone then (false, true)
      else (false, false)
    popStep
    return ⟨.scalar anchor tag implicit text, start⟩
  | .flowSequenceStart =>
    goTo .flowSequenceFirstEntry
    return ⟨.sequenceStart anchor tag, start⟩
  | .flowMappingStart =>
    goTo .flowMappingFirstKey
    return ⟨.mappingStart anchor tag, start⟩
  | .blockSequenceStart =>
    if block then
      goTo .blockSequenceFirstEntry
      return ⟨.sequenceStart anchor tag, start⟩
  | .blockMappingStart =>
    if block then
      goTo .blockMappingFirstKey
      return ⟨.mappingStart anchor tag, start⟩
  | _ => pure ()
  if anchor.isSome || tag.isSome then
    popStep
    return ⟨.scalar anchor tag (nonSpecific, false) "", start⟩
  let what := if block then "block" else "flow"
  fail (.within ("while parsing a " ++ what ++ " node") start
    ("expected the node content, but found " ++ Text.quote t.kind.name) t.start)

/-- The start of an explicit document, or the stream end. -/
def documentStart : Read Event := do
  let rec skipEnds : Nat → Read Unit
    | 0 => pure ()
    | fuel + 1 => do
      if ← nextIs [.documentEnd] then
        discard nextToken
        skipEnds fuel
  skipEnds ((← get).lexer.cursor.left + 2)
  if ← nextIs [.streamEnd] then
    let t ← nextToken
    modify fun s => { s with step := none }
    return ⟨.streamEnd, t.start⟩
  let start := (← peekToken).start
  directives
  if !(← nextIs [.documentStart]) then
    let t ← peekToken
    fail (.plain ("expected '<document start>', but found " ++ Text.quote t.kind.name) t.start)
  discard nextToken
  pushStep .documentEnd
  goTo .documentContent
  return ⟨.documentStart, start⟩

/-- The next entry of a block sequence, or its end. -/
def blockSequenceEntry : Read Event := do
  if ← nextIs [.blockEntry] then
    let t ← nextToken
    if !(← nextIs [.blockEntry, .blockEnd]) then
      pushStep .blockSequenceEntry
      return ← node true false
    goTo .blockSequenceEntry
    return emptyScalar t.stop
  if !(← nextIs [.blockEnd]) then
    let t ← peekToken
    fail (.within "while parsing a block collection" (← innermostMark)
      ("expected <block end>, but found " ++ Text.quote t.kind.name) t.start)
  let t ← nextToken
  popStep
  popMark
  return ⟨.sequenceEnd, t.start⟩

/-- The next entry of a sequence of `-` entries without indentation, or its end. -/
def indentlessSequenceEntry : Read Event := do
  if ← nextIs [.blockEntry] then
    let t ← nextToken
    if !(← nextIs [.blockEntry, .key, .value, .blockEnd]) then
      pushStep .indentlessSequenceEntry
      return ← node true false
    goTo .indentlessSequenceEntry
    return emptyScalar t.stop
  let t ← peekToken
  popStep
  return ⟨.sequenceEnd, t.start⟩

/-- The next key of a block mapping, or its end. -/
def blockMappingKey : Read Event := do
  if ← nextIs [.key] then
    let t ← nextToken
    if !(← nextIs [.key, .value, .blockEnd]) then
      pushStep .blockMappingValue
      return ← node true true
    goTo .blockMappingValue
    return emptyScalar t.stop
  if !(← nextIs [.blockEnd]) then
    let t ← peekToken
    fail (.within "while parsing a block mapping" (← innermostMark)
      ("expected <block end>, but found " ++ Text.quote t.kind.name) t.start)
  let t ← nextToken
  popStep
  popMark
  return ⟨.mappingEnd, t.start⟩

/-- The value of a block mapping's entry. -/
def blockMappingValue : Read Event := do
  goTo .blockMappingKey
  if ← nextIs [.value] then
    let t ← nextToken
    if !(← nextIs [.key, .value, .blockEnd]) then
      pushStep .blockMappingKey
      return ← node true true
    return emptyScalar t.stop
  return emptyScalar (← peekToken).start

/-- The next entry of a flow sequence, or its end; after the first, entries follow a `,`. A
`?` starts a mapping of one entry. -/
def flowSequenceEntry (first : Bool) : Read Event := do
  if !(← nextIs [.flowSequenceEnd]) then
    if !first then
      if ← nextIs [.flowEntry] then discard nextToken
      else
        let t ← peekToken
        fail (.within "while parsing a flow sequence" (← innermostMark)
          ("expected ',' or ']', but got " ++ Text.quote t.kind.name) t.start)
    if ← nextIs [.key] then
      let t ← peekToken
      goTo .flowSequenceEntryMappingKey
      return ⟨.mappingStart none none, t.start⟩
    else if !(← nextIs [.flowSequenceEnd]) then
      pushStep .flowSequenceEntry
      return ← node false false
  let t ← nextToken
  popStep
  popMark
  return ⟨.sequenceEnd, t.start⟩

/-- The next key of a flow mapping, or its end; after the first, entries follow a `,`. -/
def flowMappingKey (first : Bool) : Read Event := do
  if !(← nextIs [.flowMappingEnd]) then
    if !first then
      if ← nextIs [.flowEntry] then discard nextToken
      else
        let t ← peekToken
        fail (.within "while parsing a flow mapping" (← innermostMark)
          ("expected ',' or '\x7d', but got " ++ Text.quote t.kind.name) t.start)
    if ← nextIs [.key] then
      let t ← nextToken
      if !(← nextIs [.value, .flowEntry, .flowMappingEnd]) then
        pushStep .flowMappingValue
        return ← node false false
      goTo .flowMappingValue
      return emptyScalar t.stop
    else if !(← nextIs [.flowMappingEnd]) then
      pushStep .flowMappingEmptyValue
      return ← node false false
  let t ← nextToken
  popStep
  popMark
  return ⟨.mappingEnd, t.start⟩

/-- The value of a flow entry, after its key: `ends` are the tokens that close it. -/
def flowValue (next : GrammarStep) (ends : List TokenClass) : Read Event := do
  goTo next
  if ← nextIs [.value] then
    let t ← nextToken
    if !(← nextIs ends) then
      pushStep next
      return ← node false false
    return emptyScalar t.stop
  return emptyScalar (← peekToken).start

/-- Produces the event at a grammar position. -/
def stepEvent : GrammarStep → Read Event
  | .streamStart => do
    let t ← nextToken
    goTo .implicitDocumentStart
    return ⟨.streamStart, t.start⟩
  | .implicitDocumentStart => do
    if ← nextIs [.directive, .documentStart, .streamEnd] then documentStart
    else
      modify fun s => { s with tagHandles := defaultTagHandles }
      let t ← peekToken
      pushStep .documentEnd
      goTo .blockNode
      return ⟨.documentStart, t.start⟩
  | .documentStart => documentStart
  | .documentEnd => do
    let t ← peekToken
    if ← nextIs [.documentEnd] then discard nextToken
    goTo .documentStart
    return ⟨.documentEnd, t.start⟩
  | .documentContent => do
    if ← nextIs [.directive, .documentStart, .documentEnd, .streamEnd] then
      let t ← peekToken
      popStep
      return emptyScalar t.start
    node true false
  | .blockNode => node true false
  | .blockSequenceFirstEntry => do
    pushMark (← nextToken).start
    blockSequenceEntry
  | .blockSequenceEntry => blockSequenceEntry
  | .indentlessSequenceEntry => indentlessSequenceEntry
  | .blockMappingFirstKey => do
    pushMark (← nextToken).start
    blockMappingKey
  | .blockMappingKey => blockMappingKey
  | .blockMappingValue => blockMappingValue
  | .flowSequenceFirstEntry => do
    pushMark (← nextToken).start
    flowSequenceEntry true
  | .flowSequenceEntry => flowSequenceEntry false
  | .flowSequenceEntryMappingKey => do
    let t ← nextToken
    if !(← nextIs [.value, .flowEntry, .flowSequenceEnd]) then
      pushStep .flowSequenceEntryMappingValue
      return ← node false false
    goTo .flowSequenceEntryMappingValue
    return emptyScalar t.stop
  | .flowSequenceEntryMappingValue =>
    flowValue .flowSequenceEntryMappingEnd [.flowEntry, .flowSequenceEnd]
  | .flowSequenceEntryMappingEnd => do
    goTo .flowSequenceEntry
    return ⟨.mappingEnd, (← peekToken).start⟩
  | .flowMappingFirstKey => do
    pushMark (← nextToken).start
    flowMappingKey true
  | .flowMappingKey => flowMappingKey false
  | .flowMappingValue => flowValue .flowMappingKey [.flowEntry, .flowMappingEnd]
  | .flowMappingEmptyValue => do
    goTo .flowMappingKey
    return emptyScalar (← peekToken).start

/-- The next event, without handing it out. -/
def peekEvent : Read Event := do
  let s ← get
  match s.current with
  | some e => return e
  | none =>
    match s.step with
    | some g =>
      let e ← stepEvent g
      modify fun s => { s with current := some e }
      return e
    | none => return ⟨.streamEnd, s.lexer.cursor.mark⟩

/-- Hands out the next event. -/
def nextEvent : Read Event := do
  let e ← peekEvent
  modify fun s => { s with current := none }
  return e

end EventReader

end Manuscript.Yaml
