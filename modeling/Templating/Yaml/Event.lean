import Templating.Yaml.Tokens

/-!
# The events of a YAML text

A parser reads the tokens of a text into events: the stream and each document start and end, a
collection starts and ends, and a scalar or an alias stands at each place of a node. A node may
carry an anchor and a tag, in either order, and a tag's handle must be one the document defines;
an empty node, where the grammar allows one, is an empty plain scalar.

The parser is a machine whose state is what it expects next, with a stack of the states to return
to once a node is read, and a stack of the places where the open collections start. A block
mapping's value may be a sequence at the mapping's own indentation, whose entries then are not
indented further. An explicit document may follow directives: at most one `YAML` directive, of
version 1, and `TAG` directives that each define a new handle; the standard handles `!` and `!!`
are always defined.

Each failure names what the parser was reading and where it began, and the token it found. A
parser that asks for a token past those it may read stops there, and the scan's own failure tells
why (`Scanner.Halt`).
-/

namespace Templating.Yaml

/-- What happens at a place of a YAML text. A scalar is `implicit` when its type is read off its
text: a plain scalar without a tag, or one with the tag `!`. -/
inductive EventKind where
  | streamStart
  | streamEnd
  | documentStart
  | documentEnd
  | alias (name : String)
  | scalar (anchor tag : Option String) (implicit : Bool) (text : String)
  | sequenceStart (anchor tag : Option String)
  | sequenceEnd
  | mappingStart (anchor tag : Option String)
  | mappingEnd
  deriving Repr, Inhabited

/-- An event with the place where it starts. -/
structure Event where
  kind : EventKind
  start : Mark
  deriving Inhabited

/-- What the parser expects next. -/
inductive Expect where
  | streamStart
  | implicitDocumentStart
  | documentStart
  | documentEnd
  | documentContent
  | blockNode
  | blockSequenceFirstEntry
  | blockSequenceEntry
  | indentlessSequenceEntry
  | blockMappingFirstKey
  | blockMappingKey
  | blockMappingValue
  | flowSequenceFirstEntry
  | flowSequenceEntry
  | flowSequenceEntryMappingKey
  | flowSequenceEntryMappingValue
  | flowSequenceEntryMappingEnd
  | flowMappingFirstKey
  | flowMappingKey
  | flowMappingValue
  | flowMappingEmptyValue
  | finished
  deriving DecidableEq, Repr

/-- The standard tag handles. -/
def standardHandles : List (String × String) := [("!", "!"), ("!!", "tag:yaml.org,2002:")]

/-- The state of the parser: the tokens, of which the first `limit` may be read, the position,
what it expects, the states to return to, the places where the open collections start, and the
tag handles of the document. -/
structure Parser where
  toks : Array Lexeme
  limit : Nat
  pos : Nat := 0
  expect : Expect := .streamStart
  stack : List Expect := []
  marks : List Mark := []
  handles : List (String × String) := standardHandles

/-- A step of the parser: its result, or why it stops, none when it asks for a token past those it
may read. -/
abbrev ParseStep (α : Type) := Except (Option Problem) α

namespace Parser

/-- The next token. -/
def peek (p : Parser) : ParseStep Lexeme :=
  if p.pos < p.limit then .ok (p.toks.getD p.pos default) else .error none

/-- Whether the next token is of one of some kinds. -/
def sees (p : Parser) (kinds : List TokenKind) : ParseStep Bool := do
  pure (kinds.contains (← p.peek).token.kind)

/-- Moves past the next token. -/
def skip (p : Parser) : Parser := { p with pos := p.pos + 1 }

/-- Expects a state next and returns to another one after it. -/
def enter (p : Parser) (next after : Expect) : Parser := { p with expect := next, stack := after :: p.stack }

/-- Returns to a state after the node it reads next. -/
def returning (p : Parser) (after : Expect) : Parser := { p with stack := after :: p.stack }

/-- Returns to the state on top of the stack. -/
def pop (p : Parser) : Parser :=
  match p.stack with
  | e :: rest => { p with expect := e, stack := rest }
  | [] => { p with expect := .finished }

/-- Closes the innermost open collection. -/
def close (p : Parser) : Parser := { p.pop with marks := p.marks.drop 1 }

/-- The place where the innermost open collection starts. -/
def opened (p : Parser) : Mark := p.marks.headD default

/-- An empty plain scalar at a place. -/
def emptyAt (m : Mark) : Event := ⟨.scalar none none true "", m⟩

/-- A failure on finding a token where another was expected. -/
def unexpected {α : Type} (context : Option String) (contextMark : Option Mark) (problem : String)
    (t : Lexeme) : ParseStep α :=
  .error (some ⟨context, contextMark, problem ++ quoteText t.token.kind.name, t.start⟩)

/-- Reads the properties of a node: an anchor and a tag, in either order, with the place of the
first and of the tag. -/
def properties (p : Parser) :
    ParseStep (Option String × Option (Option String × String) × Option Mark × Option Mark × Parser) := do
  let t ← p.peek
  match t.token with
  | .anchor a =>
      let u ← p.skip.peek
      match u.token with
      | .tag h s => pure (some a, some (h, s), some t.start, some u.start, p.skip.skip)
      | _ => pure (some a, none, some t.start, none, p.skip)
  | .tag h s =>
      let u ← p.skip.peek
      match u.token with
      | .anchor a => pure (some a, some (h, s), some t.start, some t.start, p.skip.skip)
      | _ => pure (none, some (h, s), some t.start, some t.start, p.skip)
  | _ => pure (none, none, none, none, p)

/-- Reads a node: an alias, or a node's properties and its content. `block` allows block
collections, `indentless` a sequence whose entries are not indented; a node with properties and
no content is an empty scalar. -/
def node (p : Parser) (block indentless : Bool) : ParseStep (Event × Parser) := do
  let t ← p.peek
  if let .alias name := t.token then return (⟨.alias name, t.start⟩, p.skip.pop)
  let (anchor, tag, first, tagMark, p) ← p.properties
  let tag ← match tag with
    | none => pure none
    | some (none, suffix) => pure (some suffix)
    | some (some h, suffix) =>
        match p.handles.lookup h with
        | some pre => pure (some (pre ++ suffix))
        | none => .error (some ⟨some "while parsing a node", first,
            "found undefined tag handle " ++ quoteText h, tagMark.getD default⟩)
  let t ← p.peek
  let start := first.getD t.start
  let untagged := tag.isNone || tag == some "!"
  let empty : ParseStep (Event × Parser) :=
    if anchor.isSome || tag.isSome then pure (⟨.scalar anchor tag untagged "", start⟩, p.pop)
    else unexpected (some ("while parsing a " ++ (if block then "block" else "flow") ++ " node"))
      (some start) "expected the node content, but found " t
  match t.token with
  | .blockEntry =>
      if indentless then pure (⟨.sequenceStart anchor tag, start⟩, { p with expect := .indentlessSequenceEntry })
      else empty
  | .scalar text plain =>
      pure (⟨.scalar anchor tag ((plain && tag.isNone) || tag == some "!") text, start⟩, p.skip.pop)
  | .flowSequenceStart => pure (⟨.sequenceStart anchor tag, start⟩, { p with expect := .flowSequenceFirstEntry })
  | .flowMappingStart => pure (⟨.mappingStart anchor tag, start⟩, { p with expect := .flowMappingFirstKey })
  | .blockSequenceStart =>
      if block then pure (⟨.sequenceStart anchor tag, start⟩, { p with expect := .blockSequenceFirstEntry })
      else empty
  | .blockMappingStart =>
      if block then pure (⟨.mappingStart anchor tag, start⟩, { p with expect := .blockMappingFirstKey })
      else empty
  | _ => empty

/-- Skips document end markers. -/
def skipEnds : Nat → Parser → ParseStep Parser
  | 0, p => pure p
  | fuel + 1, p => do if ← p.sees [.documentEnd] then skipEnds fuel p.skip else pure p

/-- Reads the directives before an explicit document and takes the tag handles they define, with
the standard ones they leave; fails on a second `YAML` directive, a version other than 1, or a
handle defined twice. -/
def directives : Nat → Parser → Bool → List (String × String) → ParseStep Parser
  | 0, p, _, hs => pure { p with handles := hs }
  | fuel + 1, p, seenVersion, hs => do
      let t ← p.peek
      match t.token with
      | .directive _ (some (major, _)) _ =>
          if seenVersion then .error (some ⟨none, none, "found duplicate YAML directive", t.start⟩)
          else if major != 1 then
            .error (some ⟨none, none, "found incompatible YAML document (version 1.* is required)", t.start⟩)
          else directives fuel p.skip true hs
      | .directive _ _ (some (h, pre)) =>
          if (hs.lookup h).isSome then .error (some ⟨none, none, "duplicate tag handle " ++ quoteText h, t.start⟩)
          else directives fuel p.skip seenVersion (hs ++ [(h, pre)])
      | .directive _ _ _ => directives fuel p.skip seenVersion hs
      | _ => pure { p with handles := hs ++ standardHandles.filter fun (h, _) => (hs.lookup h).isNone }

/-- Reads the start of an explicit document, or the end of the stream. -/
def documentStart (p : Parser) : ParseStep (Event × Parser) := do
  let p ← p.skipEnds p.toks.size
  let t ← p.peek
  if t.token.kind == .streamEnd then pure (⟨.streamEnd, t.start⟩, { p.skip with expect := .finished })
  else
    let p ← p.directives p.toks.size false []
    let u ← p.peek
    if u.token.kind != .documentStart then unexpected none none "expected '<document start>', but found " u
    else pure (⟨.documentStart, t.start⟩, p.skip.enter .documentContent .documentEnd)

/-- Reads an entry of a block sequence, or its end. -/
def blockSequenceEntry (p : Parser) : ParseStep (Event × Parser) := do
  let t ← p.peek
  match t.token with
  | .blockEntry =>
      let p := p.skip
      if ← p.sees [.blockEntry, .blockEnd] then pure (emptyAt t.stop, { p with expect := .blockSequenceEntry })
      else (p.returning .blockSequenceEntry).node true false
  | .blockEnd => pure (⟨.sequenceEnd, t.start⟩, p.skip.close)
  | _ => unexpected (some "while parsing a block collection") (some p.opened) "expected <block end>, but found " t

/-- Reads an entry of a sequence that is not indented inside a mapping, or its end. -/
def indentlessSequenceEntry (p : Parser) : ParseStep (Event × Parser) := do
  let t ← p.peek
  match t.token with
  | .blockEntry =>
      let p := p.skip
      if ← p.sees [.blockEntry, .key, .value, .blockEnd] then
        pure (emptyAt t.stop, { p with expect := .indentlessSequenceEntry })
      else (p.returning .indentlessSequenceEntry).node true false
  | _ => pure (⟨.sequenceEnd, t.start⟩, p.pop)

/-- Reads a key of a block mapping, or its end. -/
def blockMappingKey (p : Parser) : ParseStep (Event × Parser) := do
  let t ← p.peek
  match t.token with
  | .key =>
      let p := p.skip
      if ← p.sees [.key, .value, .blockEnd] then pure (emptyAt t.stop, { p with expect := .blockMappingValue })
      else (p.returning .blockMappingValue).node true true
  | .blockEnd => pure (⟨.mappingEnd, t.start⟩, p.skip.close)
  | _ => unexpected (some "while parsing a block mapping") (some p.opened) "expected <block end>, but found " t

/-- Reads a value of a block mapping; a missing value is empty. -/
def blockMappingValue (p : Parser) : ParseStep (Event × Parser) := do
  let t ← p.peek
  match t.token with
  | .value =>
      let p := p.skip
      if ← p.sees [.key, .value, .blockEnd] then pure (emptyAt t.stop, { p with expect := .blockMappingKey })
      else (p.returning .blockMappingKey).node true true
  | _ => pure (emptyAt t.start, { p with expect := .blockMappingKey })

/-- Reads an entry of a flow sequence, or its end; `first` before the first entry. An entry that
is a key starts a mapping of one pair. -/
def flowSequenceEntry (p : Parser) (first : Bool) : ParseStep (Event × Parser) := do
  let t ← p.peek
  let finish : ParseStep (Event × Parser) := do
    let t ← p.peek
    pure (⟨.sequenceEnd, t.start⟩, p.skip.close)
  if t.token.kind == .flowSequenceEnd then finish
  else
    let p ← if first then pure p
      else if t.token.kind == .flowEntry then pure p.skip
      else unexpected (some "while parsing a flow sequence") (some p.opened) "expected ',' or ']', but got " t
    let t ← p.peek
    match t.token with
    | .key => pure (⟨.mappingStart none none, t.start⟩, { p with expect := .flowSequenceEntryMappingKey })
    | .flowSequenceEnd => pure (⟨.sequenceEnd, t.start⟩, p.skip.close)
    | _ => (p.returning .flowSequenceEntry).node false false

/-- Reads the key of a mapping of one pair inside a flow sequence, after its `?`. -/
def flowSequenceEntryMappingKey (p : Parser) : ParseStep (Event × Parser) := do
  let t ← p.peek
  let p := p.skip
  if ← p.sees [.value, .flowEntry, .flowSequenceEnd] then
    pure (emptyAt t.stop, { p with expect := .flowSequenceEntryMappingValue })
  else (p.returning .flowSequenceEntryMappingValue).node false false

/-- Reads the value of a mapping of one pair inside a flow sequence; a missing value is empty. -/
def flowSequenceEntryMappingValue (p : Parser) : ParseStep (Event × Parser) := do
  let t ← p.peek
  match t.token with
  | .value =>
      let p := p.skip
      if ← p.sees [.flowEntry, .flowSequenceEnd] then
        pure (emptyAt t.stop, { p with expect := .flowSequenceEntryMappingEnd })
      else (p.returning .flowSequenceEntryMappingEnd).node false false
  | _ => pure (emptyAt t.start, { p with expect := .flowSequenceEntryMappingEnd })

/-- Reads a key of a flow mapping, or its end; `first` before the first entry. A key without `?`
has an empty value. -/
def flowMappingKey (p : Parser) (first : Bool) : ParseStep (Event × Parser) := do
  let t ← p.peek
  if t.token.kind == .flowMappingEnd then pure (⟨.mappingEnd, t.start⟩, p.skip.close)
  else
    let p ← if first then pure p
      else if t.token.kind == .flowEntry then pure p.skip
      else unexpected (some "while parsing a flow mapping") (some p.opened) "expected ',' or '\x7d', but got " t
    let t ← p.peek
    match t.token with
    | .key =>
        let p := p.skip
        if ← p.sees [.value, .flowEntry, .flowMappingEnd] then
          pure (emptyAt t.stop, { p with expect := .flowMappingValue })
        else (p.returning .flowMappingValue).node false false
    | .flowMappingEnd => pure (⟨.mappingEnd, t.start⟩, p.skip.close)
    | _ => (p.returning .flowMappingEmptyValue).node false false

/-- Reads a value of a flow mapping; a missing value is empty. -/
def flowMappingValue (p : Parser) : ParseStep (Event × Parser) := do
  let t ← p.peek
  match t.token with
  | .value =>
      let p := p.skip
      if ← p.sees [.flowEntry, .flowMappingEnd] then pure (emptyAt t.stop, { p with expect := .flowMappingKey })
      else (p.returning .flowMappingKey).node false false
  | _ => pure (emptyAt t.start, { p with expect := .flowMappingKey })

/-- Reads the next event. -/
def next (p : Parser) : ParseStep (Event × Parser) := do
  match p.expect with
  | .streamStart =>
      let t ← p.peek
      pure (⟨.streamStart, t.start⟩, { p.skip with expect := .implicitDocumentStart })
  | .implicitDocumentStart =>
      if ← p.sees [.directive, .documentStart, .streamEnd] then p.documentStart
      else
        let t ← p.peek
        pure (⟨.documentStart, t.start⟩, { p with handles := standardHandles }.enter .blockNode .documentEnd)
  | .documentStart => p.documentStart
  | .documentEnd =>
      let t ← p.peek
      let p := if t.token.kind == .documentEnd then p.skip else p
      pure (⟨.documentEnd, t.start⟩, { p with expect := .documentStart })
  | .documentContent =>
      let t ← p.peek
      if [.directive, .documentStart, .documentEnd, .streamEnd].contains t.token.kind then
        pure (emptyAt t.start, p.pop)
      else p.node true false
  | .blockNode => p.node true false
  | .blockSequenceFirstEntry =>
      let t ← p.peek
      { p.skip with marks := t.start :: p.marks }.blockSequenceEntry
  | .blockSequenceEntry => p.blockSequenceEntry
  | .indentlessSequenceEntry => p.indentlessSequenceEntry
  | .blockMappingFirstKey =>
      let t ← p.peek
      { p.skip with marks := t.start :: p.marks }.blockMappingKey
  | .blockMappingKey => p.blockMappingKey
  | .blockMappingValue => p.blockMappingValue
  | .flowSequenceFirstEntry =>
      let t ← p.peek
      { p.skip with marks := t.start :: p.marks }.flowSequenceEntry true
  | .flowSequenceEntry => p.flowSequenceEntry false
  | .flowSequenceEntryMappingKey => p.flowSequenceEntryMappingKey
  | .flowSequenceEntryMappingValue => p.flowSequenceEntryMappingValue
  | .flowSequenceEntryMappingEnd =>
      let t ← p.peek
      pure (⟨.mappingEnd, t.start⟩, { p with expect := .flowSequenceEntry })
  | .flowMappingFirstKey =>
      let t ← p.peek
      { p.skip with marks := t.start :: p.marks }.flowMappingKey true
  | .flowMappingKey => p.flowMappingKey false
  | .flowMappingValue => p.flowMappingValue
  | .flowMappingEmptyValue =>
      let t ← p.peek
      pure (emptyAt t.start, { p with expect := .flowMappingKey })
  | .finished => .error none

/-- Reads events until the stream ends, after the events read so far: the events, and why the
parser stopped short, if it did. -/
def run : Nat → Parser → Array Event → Array Event × Option (Option Problem)
  | 0, _, evs => (evs, some none)
  | fuel + 1, p, evs =>
      if p.expect == .finished then (evs, none)
      else match p.next with
        | .ok (e, p) => run fuel p (evs.push e)
        | .error stop => (evs, some stop)

end Parser

/-- The events of the first `limit` tokens of a stream, and why the parser stopped short of the
stream's end, if it did: none when it asked for a token past those. -/
def parseEvents (toks : Array Lexeme) (limit : Nat) : Array Event × Option (Option Problem) :=
  Parser.run (4 * limit + 8) { toks := toks, limit := limit } #[]

end Templating.Yaml
