import Templating.Yaml.Event
import Templating.Yaml.Resolve
import Templating.Yaml.Typed
import Templating.Data.Hash

/-!
# Loading YAML documents as values

A document is loaded in two passes. Composing reads the events of the text (`Yaml.Event`),
numbers the nodes in the order they are written, replaces each alias by the number of the node
its anchor names, which must come before the alias or contain it and be named once, and gives
every node a full tag: a node without a tag, or a scalar with the tag `!`, takes the type its kind
and text imply.

Building then turns nodes into values. A scalar is built where it is met, by its tag
(`Yaml.Typed`). A sequence, mapping, set, ordered map or list of pairs is made empty where it is
first met and filled later, in the order the collections were first met, so that a faulty scalar
near the top of a document is found before one deeper in it. Every collection is one object,
however many places hold it; objects held in one place only are put in that place at the end,
but for a not-a-number of its own.

A mapping's merge keys `<<` first bring in the entries of the mappings they name, the later ones
of a list of mappings first, and the mapping's own entries come after and win; a key given twice
keeps its first place and takes the later value, keys compared by value: the not-a-number that
`.nan` stands for is one object wherever it is written, any other not-a-number an object of its
own, unequal to every other. A set lists its members in the order of its hash table
(`Value.setOrder`).

A key that is a collection fails the document, as does a node of a kind its type cannot be built
from, a merge key that names no mapping, and a tag that names no type, among them the merge key
`<<` and the value key `=` anywhere but as keys, where `=` is the text `=`. Each failure tells the
place where the node starts.

A text loads when it holds at most one document; no document loads as nothing. Reading a text
stops at its first failure, in the order a reader meets them: the scanner makes tokens only as
the parser asks for them, the parser makes events as composing asks for them, and building starts
once the whole text is composed.
-/

namespace Templating.Yaml

/-- The prefix of the standard tags. -/
def std (name : String) : String := "tag:yaml.org,2002:" ++ name

/-- The standard tag of a scalar's implicit type. -/
def Kind.tag : Kind → String
  | .null => std "null"
  | .bool => std "bool"
  | .int => std "int"
  | .float => std "float"
  | .merge => std "merge"
  | .timestamp => std "timestamp"
  | .value => std "value"
  | .str => std "str"

/-- The full tag of a node: its own, or the one its kind and text imply. -/
def fullTag (tag : Option String) (default : String) : String :=
  match tag with
  | some t => if t == "!" then default else t
  | none => default

/-- A node of a composed document, its children named by their numbers. -/
inductive Item where
  | scalar (tag : String) (text : String)
  | seq (tag : String) (items : List Nat)
  | map (tag : String) (pairs : List (Nat × Nat))
  deriving Inhabited

/-- The tag of a node. -/
def Item.tag : Item → String
  | .scalar t _ | .seq t _ | .map t _ => t

/-- The name of a node's kind, as failures report it. -/
def Item.kindName : Item → String
  | .scalar .. => "scalar"
  | .seq .. => "sequence"
  | .map .. => "mapping"

/-- The state of composing: the events, the position, the nodes composed so far with the places
where they start, and the anchors named so far. -/
structure Composer where
  events : Array Event
  pos : Nat := 0
  items : Array Item := #[]
  marks : Array Mark := #[]
  anchors : List (String × Nat) := []

/-- A step of composing: its result, or why it stops, none when the events run out. -/
abbrev ComposeStep (α : Type) := Except (Option Problem) α

namespace Composer

/-- The next event. -/
def peek (c : Composer) : ComposeStep Event :=
  if c.pos < c.events.size then .ok (c.events.getD c.pos default) else .error none

/-- Moves past the next event. -/
def skip (c : Composer) : Composer := { c with pos := c.pos + 1 }

/-- Checks that an anchor is not named already. -/
def fresh (c : Composer) (anchor : Option String) (m : Mark) : ComposeStep Unit :=
  match anchor with
  | some a =>
      match c.anchors.lookup a with
      | some i => .error (some ⟨some ("found duplicate anchor " ++ quoteText a ++ "; first occurrence"),
          some (c.marks.getD i default), "second occurrence", m⟩)
      | none => pure ()
  | none => pure ()

/-- Adds a node starting at a place, named by its anchor: its number and the composer. -/
def add (c : Composer) (item : Item) (m : Mark) (anchor : Option String) : Nat × Composer :=
  let i := c.items.size
  let anchors := match anchor with
    | some a => (a, i) :: c.anchors
    | none => c.anchors
  (i, { c with items := c.items.push item, marks := c.marks.push m, anchors := anchors })

end Composer

mutual

/-- Composes the node whose event is next: its number, and the composer with it and the nodes
below it added. An alias gives the number of the node its anchor names. -/
def composeNode : Nat → Composer → ComposeStep (Nat × Composer)
  | 0, _ => .error none
  | fuel + 1, c => do
      let e ← c.peek
      match e.kind with
      | .alias a =>
          match c.anchors.lookup a with
          | some i => pure (i, c.skip)
          | none => .error (some ⟨none, none, "found undefined alias " ++ quoteText a, e.start⟩)
      | .scalar anchor tag implicit text =>
          c.fresh anchor e.start
          let t := fullTag tag (if implicit then (resolve text).tag else std "str")
          pure (c.skip.add (.scalar t text) e.start anchor)
      | .sequenceStart anchor tag =>
          c.fresh anchor e.start
          let t := fullTag tag (std "seq")
          let (i, c) := c.skip.add (.seq t []) e.start anchor
          let (ids, c) ← composeItems fuel c []
          pure (i, { c with items := c.items.setIfInBounds i (.seq t ids) })
      | .mappingStart anchor tag =>
          c.fresh anchor e.start
          let t := fullTag tag (std "map")
          let (i, c) := c.skip.add (.map t []) e.start anchor
          let (ps, c) ← composePairs fuel c []
          pure (i, { c with items := c.items.setIfInBounds i (.map t ps) })
      | _ => .error none

/-- Composes the items of a sequence up to its end, those composed so far kept last first. -/
def composeItems : Nat → Composer → List Nat → ComposeStep (List Nat × Composer)
  | 0, _, _ => .error none
  | fuel + 1, c, acc => do
      let e ← c.peek
      match e.kind with
      | .sequenceEnd => pure (acc.reverse, c.skip)
      | _ =>
          let (i, c) ← composeNode fuel c
          composeItems fuel c (i :: acc)

/-- Composes the pairs of a mapping up to its end, each key before its value, those composed so
far kept last first. -/
def composePairs : Nat → Composer → List (Nat × Nat) → ComposeStep (List (Nat × Nat) × Composer)
  | 0, _, _ => .error none
  | fuel + 1, c, acc => do
      let e ← c.peek
      match e.kind with
      | .mappingEnd => pure (acc.reverse, c.skip)
      | _ =>
          let (k, c) ← composeNode fuel c
          let (v, c) ← composeNode fuel c
          composePairs fuel c ((k, v) :: acc)

end

/-- Composes the one document of a stream of events: the number of its root and the composer,
none for a stream without documents. A second document fails where it starts. -/
def composeStream (evs : Array Event) : ComposeStep (Option (Nat × Composer)) := do
  let c : Composer := { events := evs }
  let _ ← c.peek
  let c := c.skip
  let e ← c.peek
  let (doc, c) ← match e.kind with
    | .streamEnd => pure (none, c)
    | _ => do
        let (root, c) ← composeNode (evs.size + 1) c.skip
        let _ ← c.peek
        pure (some root, c.skip)
  let e ← c.peek
  match e.kind, doc with
  | .streamEnd, _ => pure (doc.map (·, c))
  | _, some root =>
      .error (some ⟨some "expected a single document in the stream", some (c.marks.getD root default),
        "but found another document", e.start⟩)
  | _, none => .error none

/-! ## Merge keys -/

/-- A failure of building a document: what was being built and where it starts, when that tells,
and what was found where. -/
def unbuildable (context : Option String) (contextMark : Option Mark) (problem : String) (m : Mark) :
    LoadError :=
  .malformed (.problem ⟨context, contextMark, problem, m⟩)

/-- The pairs of a mapping node. -/
def pairsOf (items : Array Item) (i : Nat) : List (Nat × Nat) :=
  match items.getD i default with
  | .map _ ps => ps
  | _ => []

/-- Replaces the pairs of a mapping node. -/
def setPairs (items : Array Item) (i : Nat) (ps : List (Nat × Nat)) : Array Item :=
  match items.getD i default with
  | .map t _ => items.setIfInBounds i (.map t ps)
  | _ => items

/-- Gives a scalar node the text tag. -/
def retag (items : Array Item) (i : Nat) : Array Item :=
  match items.getD i default with
  | .scalar _ text => items.setIfInBounds i (.scalar (std "str") text)
  | _ => items

/-- Resolves the merge keys of mapping `i` from its pair at `index` on: a merge key is taken out
and the entries of the mapping it names, or of each mapping of a list it names, the later ones
first, are collected into `merge`, each mapping resolved first; a value key becomes a text. The
answer is the nodes with the mapping changed and the entries collected. A merge key that names
anything else fails the mapping, at the places `marks` gives. -/
def mergeFrom (marks : Array Mark) : Nat → Array Item → Nat → Nat → List (Nat × Nat) →
    Except LoadError (Array Item × List (Nat × Nat))
  | 0, _, i, _, _ => .error (unbuildable none none "merge keys nest too deeply" (marks.getD i default))
  | fuel + 1, items, i, index, merge =>
      let pairs := pairsOf items i
      let here := some "while constructing a mapping"
      match pairs[index]? with
      | none => .ok (items, merge)
      | some (k, v) =>
          let keyTag := (items.getD k default).tag
          if keyTag == std "merge" then
            let items := setPairs items i (pairs.eraseIdx index)
            match items.getD v default with
            | .map .. => do
                let (items, m) ← mergeFrom marks fuel items v 0 []
                let items := if m.isEmpty then items else setPairs items v (m ++ pairsOf items v)
                mergeFrom marks fuel items i index (merge ++ pairsOf items v)
            | .seq _ subs => do
                let step := fun (acc : Array Item × List (List (Nat × Nat))) (sub : Nat) =>
                  match acc.1.getD sub default with
                  | .map .. => do
                      let (items, m) ← mergeFrom marks fuel acc.1 sub 0 []
                      let items := if m.isEmpty then items else setPairs items sub (m ++ pairsOf items sub)
                      pure (items, acc.2 ++ [pairsOf items sub])
                  | other => .error (unbuildable here (some (marks.getD i default))
                      ("expected a mapping for merging, but found " ++ other.kindName) (marks.getD sub default))
                let (items, parts) ← subs.foldlM step (items, [])
                mergeFrom marks fuel items i index (merge ++ parts.reverse.flatten)
            | other => .error (unbuildable here (some (marks.getD i default))
                ("expected a mapping or list of mappings for merging, but found " ++ other.kindName)
                (marks.getD v default))
          else if keyTag == std "value" then mergeFrom marks fuel (retag items k) i (index + 1) merge
          else mergeFrom marks fuel items i (index + 1) merge

/-- Resolves the merge keys of mapping `i`: the entries they bring in come first. -/
def flatten (marks : Array Mark) (fuel : Nat) (items : Array Item) (i : Nat) : Except LoadError (Array Item) := do
  let (items, merge) ← mergeFrom marks fuel items i 0 []
  pure (if merge.isEmpty then items else setPairs items i (merge ++ pairsOf items i))

/-! ## Building values -/

/-- The tags of the collections, which are made empty and filled later. -/
def collectionTags : List String := [std "seq", std "map", std "set", std "omap", std "pairs"]

/-- The tags of the scalar types. -/
def scalarTags : List String :=
  [std "str", std "null", std "bool", std "int", std "float", std "binary", std "timestamp"]

/-- The failure of a node whose tag names no type. -/
def undefinedTag (tag : String) (m : Mark) : LoadError :=
  unbuildable none none ("could not determine a constructor for the tag " ++ quoteText tag) m

/-- The value of a scalar node starting at a place, by its tag. -/
def scalarValue (tag text : String) (m : Mark) : Except LoadError Value :=
  if tag == std "str" then .ok (.str text)
  else if tag == std "null" then .ok .null
  else if tag == std "bool" then (boolValue text).map .bool
  else if tag == std "int" then (intValue text).map .int
  else if tag == std "float" then (floatValue text).map .float
  else if tag == std "binary" then (binaryValue text m).map .bytes
  else if tag == std "timestamp" then (stampValue text).map .stamp
  else .error (undefinedTag tag m)

/-- The text of a node built as a scalar: a scalar's own text, or for a mapping the text of the
value under its first value key `=`. Any other node fails; a mapping that holds itself this way
never ends, and `fuel` bounds the steps. -/
def scalarText (items : Array Item) (marks : Array Mark) : Nat → Nat → Except LoadError String
  | 0, _ => .error (.fault (Failure.uncaught "RecursionError" "maximum recursion depth exceeded"))
  | fuel + 1, i =>
      match items.getD i default with
      | .scalar _ text => .ok text
      | .map _ pairs =>
          match pairs.find? fun (k, _) => (items.getD k default).tag == std "value" with
          | some (_, v) => scalarText items marks fuel v
          | none => .error (unbuildable none none "expected a scalar node, but found mapping" (marks.getD i default))
      | .seq .. => .error (unbuildable none none "expected a scalar node, but found sequence" (marks.getD i default))

/-- The state of building: the nodes and the places where they start, the heap place of each
collection made so far, the heap, and the collections met so far in order, of which the first
`filled` are filled. -/
structure Builder where
  items : Array Item
  marks : Array Mark
  slots : Array (Option Nat)
  heap : Heap := #[]
  waiting : Array Nat := #[]
  filled : Nat := 0
  /-- A bound on the steps of resolving merge keys. -/
  mergeFuel : Nat

namespace Builder

/-- The place where node `i` starts. -/
def markOf (b : Builder) (i : Nat) : Mark := b.marks.getD i default

/-- The value of node `i`: a scalar's value, or the reference to a collection, made empty and
set waiting when it is first met. A timestamp is an object too, made once for its node, so that
the places an alias shares it from hold the same one, and so is a not-a-number other than the
shared `.nan`. A node of a scalar type that is a collection is built from the text it holds under
a value key; a tag that names no type fails the node. -/
def build (b : Builder) (i : Nat) : Except LoadError (Value × Builder) :=
  match b.slots.getD i none with
  | some s => .ok (.ref s, b)
  | none =>
      let item := b.items.getD i default
      let tag := item.tag
      let s := b.heap.size
      let slots := b.slots.setIfInBounds i (some s)
      if collectionTags.contains tag then
        .ok (.ref s, { b with heap := b.heap.push .null, slots := slots, waiting := b.waiting.push i })
      else if scalarTags.contains tag then do
        let text ← scalarText b.items b.marks (b.items.size + 1) i
        let v ← scalarValue tag text (b.markOf i)
        if tag == std "timestamp" || (tag == std "float" && v.isNaN && !sharedNaN text) then
          pure (.ref s, { b with heap := b.heap.push v, slots := slots })
        else pure (v, b)
      else .error (undefinedTag tag (b.markOf i))

/-- Whether a value can be a key: no collection can, a timestamp or a double can. -/
def hashable (h : Heap) : Value → Bool
  | .ref i =>
      match h.getD i .null with
      | .stamp _ | .float _ => true
      | _ => false
  | _ => true

/-- The entries of the pairs of mapping `i`, each key built before its value; a key that is a
collection fails the mapping. -/
def entries (b : Builder) (i : Nat) (pairs : List (Nat × Nat)) : Except LoadError (Entries × Builder) :=
  let step := fun (acc : Entries × Builder) (kv : Nat × Nat) => do
    let (key, b) ← acc.2.build kv.1
    if !hashable b.heap key then
      throw (unbuildable (some "while constructing a mapping") (some (b.markOf i)) "found unhashable key"
        (b.markOf kv.1))
    let (val, b) ← b.build kv.2
    pure (Entries.putIn b.heap key val acc.1, b)
  pairs.foldlM step ([], b)

/-- Fills the collection of node `i`. A sequence must be a sequence node, a mapping or a set a
mapping node, and an ordered map or a list of pairs a sequence of mappings of one pair each. -/
def fill (b : Builder) (i : Nat) : Except LoadError Builder := do
  let s := (b.slots.getD i none).getD 0
  let item := b.items.getD i default
  let tag := item.tag
  let m := b.markOf i
  let (v, b) ← if tag == std "seq" then
      match item with
      | .seq _ ids => do
          let step := fun (acc : List Value × Builder) (j : Nat) => do
            let (v, b) ← acc.2.build j
            pure (v :: acc.1, b)
          let (vs, b) ← ids.foldlM step ([], b)
          pure (Value.list vs.reverse, b)
      | _ => throw (unbuildable none none ("expected a sequence node, but found " ++ item.kindName) m)
    else if tag == std "map" || tag == std "set" then
      match item with
      | .map .. => do
          let items ← flatten b.marks b.mergeFuel b.items i
          let (kvs, b) ← { b with items := items }.entries i (pairsOf items i)
          pure (if tag == std "map" then Value.obj kvs
            else Value.set (Value.setOrder b.heap (kvs.map (·.1))), b)
      | _ => throw (unbuildable none none ("expected a mapping node, but found " ++ item.kindName) m)
    else
      let what := some (if tag == std "omap" then "while constructing an ordered map" else "while constructing pairs")
      match item with
      | .seq _ ids => do
          let step := fun (acc : List Value × Builder) (j : Nat) =>
            match acc.2.items.getD j default with
            | .map _ [(k, w)] => do
                let (key, b) ← acc.2.build k
                let (val, b) ← b.build w
                pure (Value.tuple [key, val] :: acc.1, b)
            | .map _ ps => throw (unbuildable what (some m)
                ("expected a single mapping item, but found " ++ toString ps.length ++ " items") (acc.2.markOf j))
            | sub => throw (unbuildable what (some m)
                ("expected a mapping of length 1, but found " ++ sub.kindName) (acc.2.markOf j))
          let (vs, b) ← ids.foldlM step ([], b)
          pure (Value.list vs.reverse, b)
      | _ => throw (unbuildable what (some m) ("expected a sequence, but found " ++ item.kindName) m)
  pure { b with heap := b.heap.setIfInBounds s v }

/-- Fills the waiting collections in order, until none waits. -/
def drain : Nat → Builder → Except LoadError Builder
  | 0, b => .ok b
  | fuel + 1, b =>
      match b.waiting[b.filled]? with
      | none => .ok b
      | some i => do
          let b ← { b with filled := b.filled + 1 }.fill i
          drain fuel b

end Builder

/-! ## Objects held in one place -/

mutual

/-- The references in a value, in order. -/
def refsOf : Value → List Nat
  | .ref i => [i]
  | .tuple xs | .list xs | .set xs => refsOfItems xs
  | .obj kvs => refsOfEntries kvs
  | _ => []

/-- The references in values. -/
def refsOfItems : List Value → List Nat
  | [] => []
  | x :: xs => refsOf x ++ refsOfItems xs

/-- The references in entries. -/
def refsOfEntries : List (Value × Value) → List Nat
  | [] => []
  | (k, v) :: r => refsOf k ++ refsOf v ++ refsOfEntries r

end

/-- Counts the places that hold each object, over the pending references and the objects first
reached through them. -/
def countRefs (h : Heap) : Nat → List Nat → Array Nat → Array Nat
  | 0, _, c => c
  | _ + 1, [], c => c
  | fuel + 1, i :: rest, c =>
      let n := c.getD i 0
      let c := c.setIfInBounds i (n + 1)
      if n == 0 then countRefs h fuel (refsOf (h.getD i .null) ++ rest) c
      else countRefs h fuel rest c

/-- A value with every object that one place holds put in that place, but for a not-a-number,
which only its identity tells from another. -/
def inlineAt (h : Heap) (counts : Array Nat) : Nat → Value → Value
  | 0, v => v
  | fuel + 1, v =>
      match v with
      | .ref i =>
          if counts.getD i 0 == 1 && !(h.getD i .null).isNaN then inlineAt h counts fuel (h.getD i .null)
          else v
      | .tuple xs => .tuple (xs.map (inlineAt h counts fuel))
      | .list xs => .list (xs.map (inlineAt h counts fuel))
      | .set xs => .set (xs.map (inlineAt h counts fuel))
      | .obj kvs => .obj (kvs.map fun (k, w) => (inlineAt h counts fuel k, inlineAt h counts fuel w))
      | v => v

/-- The graph of a root and a heap with the objects held in one place put there. -/
def settle (h : Heap) (root : Value) : Graph :=
  let total := h.foldl (fun n v => n + (refsOf v).length) (refsOf root).length + 1
  let counts := countRefs h total (refsOf root) (Array.replicate h.size 0)
  let fuel := Value.reach h root
  ⟨h.map (inlineAt h counts fuel), inlineAt h counts fuel root⟩

/-- Loads a YAML text that holds at most one document: nothing for none. The first failure met
reading the text in order is the one reported: a step of composing the events read so far, or
else the parser's, or else the scan's that stopped the parser. -/
def load (text : String) : Except LoadError (Option Graph) := do
  let (toks, limit, scanStop) := match tokenize text with
    | .ok toks => (toks, toks.size, none)
    | .error h => (h.tokens, h.visible, some h.stop)
  let (events, parseStop) := parseEvents toks limit
  let stopped : LoadError := match parseStop, scanStop with
    | some (some p), _ => .malformed (.problem p)
    | _, some (.refused r) => .malformed r
    | _, some (.fault f) => .fault f
    | _, none => .malformed (.problem ⟨none, none, "the text ends too soon", default⟩)
  match composeStream events with
  | .error (some p) => throw (.malformed (.problem p))
  | .error none => throw stopped
  | .ok none => pure none
  | .ok (some (root, c)) =>
      let pairs := c.items.foldl (fun n it => n + (match it with
        | .map _ ps => ps.length
        | _ => 0)) 0
      let bound := pairs + c.items.size + 1
      let b : Builder :=
        { items := c.items
          marks := c.marks
          slots := Array.replicate c.items.size none
          mergeFuel := bound * bound }
      let (v, b) ← b.build root
      let b ← b.drain (c.items.size + 1)
      pure (some (settle b.heap v))

end Templating.Yaml
