import Templating.Yaml.Resolve
import Templating.Data.Display
import Templating.Data.Base64
import Templating.Sort.Adaptive

/-!
# Writing values as YAML

`Value.toYaml` writes a value as a YAML document in block style: objects as mappings, one key a
line, lists and tuples as sequences of `- ` entries, a list that is the value of a key not
indented further than the key, sets as mappings tagged `!!set` whose values are null. Empty
collections are written `[]` and `{}`.

The keys of a mapping are written in the order `Sort.adaptive?` puts them in, and in their own
order when it compares two keys that cannot be compared.

A collection or timestamp that stands at several places is written in full at the first, with an
anchor `&idNNN`, and as the alias `*idNNN` at the others; anchors are numbered in the order the
second places are met. An object inside itself is written the same way.

A scalar is written plain when its text reads back with its own type and holds nothing that
would end or change a plain scalar: no leading or trailing blank, no line break, no indicator
at its start, no `: ` or ` #` inside, no character that needs an escape. Otherwise it is
single-quoted when that can hold it, and double-quoted with escapes when not. Byte strings are
written in base 64 as a literal block tagged `!!binary`. A type that the text written does not
imply is written as a tag before it. A key is written before `:` on its line when it is short and
on one line, and after `? ` on a line of its own when not.

Lines are folded at a single space once they pass column 80, the continuation indented by the
scalar's indentation. A document that is a single plain scalar is closed by `...`.

## Implementation notes

The writer threads a `Pen` through the output: its column, whether the last thing written was
a blank, and whether the line holds nothing but indentation and indicators yet. These decide
where an indicator needs a space before it and where a new line starts. A first walk over the
value numbers the anchors, a second writes it; both enter each shared object once.
-/

namespace Templating.Yaml

/-- The width past which lines are folded. -/
def bestWidth : Nat := 80

/-- The writer's place in the output. -/
structure Pen where
  out : String := ""
  column : Nat := 0
  whitespace : Bool := true
  indention : Bool := true
  /-- Whether the document needs `...` to end it. -/
  openEnded : Bool := false
  deriving Inhabited

namespace Pen

/-- Writes text on the current line. -/
def put (p : Pen) (s : String) : Pen := { p with out := p.out ++ s, column := p.column + s.length }

/-- Ends the line with the given line break. -/
def lineBreak (p : Pen) (brk : String := "\n") : Pen :=
  { p with out := p.out ++ brk, column := 0, whitespace := true, indention := true }

/-- Writes an indicator, with a space before it when one is needed and the last thing written
was no blank. -/
def indicator (p : Pen) (ind : String) (needSpace : Bool) (blank : Bool := false)
    (indention : Bool := false) : Pen :=
  let data := if p.whitespace || !needSpace then ind else " " ++ ind
  { p.put data with whitespace := blank, indention := p.indention && indention, openEnded := false }

/-- Moves to the indentation `n`: to a new line unless the current one holds only indentation
short of it. -/
def indent (p : Pen) (n : Nat) : Pen :=
  let p := if !p.indention || p.column > n || (p.column == n && !p.whitespace) then p.lineBreak else p
  if p.column < n then { p.put (String.ofList (List.replicate (n - p.column) ' ')) with whitespace := true }
  else p

end Pen

/-- Whether a character breaks a line. -/
def isLineBreak (c : Char) : Bool :=
  c == '\n' || c == '\x85' || c == '\u2028' || c == '\u2029'

/-- Whether a character counts as blank next to an indicator. -/
def isBlankNear (c : Char) : Bool :=
  c == '\x00' || c == ' ' || c == '\t' || c == '\r' || isLineBreak c

/-- Whether a character may stand in a YAML text unescaped; a carried surrogate may not. -/
def isPrintableText (c : Char) : Bool :=
  let n := Text.codeOf c
  c == '\n' || (0x20 ≤ n ∧ n ≤ 0x7E) ||
    ((n == 0x85 || (0xA0 ≤ n ∧ n ≤ 0xD7FF) || (0xE000 ≤ n ∧ n ≤ 0xFFFD) ||
      (0x10000 ≤ n ∧ n < 0x10FFFF)) && n != 0xFEFF)

/-- What the characters of a scalar allow. -/
structure Analysis where
  empty : Bool
  multiline : Bool
  blockPlain : Bool
  singleQuoted : Bool
  block : Bool
  deriving Repr

/-- What a scalar's characters show: indicators, line breaks, special characters, and blanks at
its ends or around its line breaks. -/
structure Traits where
  indicators : Bool := false
  lineBreaks : Bool := false
  special : Bool := false
  edgeBlank : Bool := false
  trailingSpace : Bool := false
  breakSpace : Bool := false
  spaceBreak : Bool := false

/-- Gathers the traits of the characters from position `i`; `prev` is the character before. -/
def gather (n : Nat) : Nat → Option Char → List Char → Traits → Traits
  | _, _, [], t => t
  | i, prev, c :: rest, t =>
      let preceded := match prev with
        | some p => isBlankNear p
        | none => true
      let followed := match rest with
        | d :: _ => isBlankNear d
        | [] => true
      let ind :=
        if i == 0 then
          "#,[]\x7b\x7d&*!|>\x27\"%@\x60".toList.contains c ||
            ((c == '?' || c == ':') && followed) || (c == '-' && followed)
        else (c == ':' && followed) || (c == '#' && preceded)
      let prevSpace := prev == some ' '
      let prevBreak := prev.map isLineBreak == some true
      let t := { t with
        indicators := t.indicators || ind
        lineBreaks := t.lineBreaks || isLineBreak c
        special := t.special || !isPrintableText c
        edgeBlank := t.edgeBlank || ((i == 0 || i + 1 == n) && (c == ' ' || isLineBreak c))
        trailingSpace := t.trailingSpace || (i + 1 == n && c == ' ')
        breakSpace := t.breakSpace || (c == ' ' && prevBreak)
        spaceBreak := t.spaceBreak || (isLineBreak c && prevSpace) }
      gather n (i + 1) (some c) rest t

/-- The analysis of a scalar's text. -/
def analyze (s : String) : Analysis :=
  let cs := s.toList
  if cs.isEmpty then ⟨true, false, true, true, false⟩
  else
    let t := gather cs.length 0 none cs {}
    let marker := cs.take 3 == ['-', '-', '-'] || cs.take 3 == ['.', '.', '.']
    let plain := !(t.edgeBlank || t.breakSpace || t.spaceBreak || t.special || t.lineBreaks ||
      t.indicators || marker)
    ⟨false, t.lineBreaks, plain, !(t.breakSpace || t.spaceBreak || t.special),
      !(t.trailingSpace || t.spaceBreak || t.special)⟩

/-- A scalar to write: its text, its tag, whether the text written plain reads back with that
tag, whether the tag is the text tag, and whether it asks for a literal block. -/
structure Scalar where
  text : String
  tag : String
  plainTag : Bool
  textTag : Bool
  literal : Bool := false

/-- How a scalar is written. -/
inductive Style where
  | plain
  | single
  | double
  | literal
  deriving DecidableEq, Repr

/-- The style of a scalar: plain when its text reads back with its tag and the analysis allows
it; a literal block when it asks for one and is no key and the analysis allows it; else
single-quoted when that can hold it, else double-quoted. A key on its line is never empty or on
several lines in plain, nor on several lines in single quotes. -/
def chooseStyle (a : Analysis) (s : Scalar) (simpleKey : Bool) : Style :=
  if !s.literal && s.plainTag && !(simpleKey && (a.empty || a.multiline)) && a.blockPlain then .plain
  else if s.literal && !simpleKey && a.block then .literal
  else if !s.literal && a.singleQuoted && !(simpleKey && a.multiline) then .single
  else .double

/-- Whether a scalar's tag is written before it: unless the style implies it. -/
def tagShown (s : Scalar) (style : Style) : Bool :=
  !((style == .plain && s.plainTag) || (style != .plain && s.textTag))

/-- Splits text into runs of characters of one class. -/
def runsBy (cls : Char → Nat) : List Char → List (List Char)
  | [] => []
  | c :: rest =>
      match runsBy cls rest with
      | (d :: r) :: runs => if cls c == cls d then (c :: d :: r) :: runs else [c] :: (d :: r) :: runs
      | _ => [[c]]

/-- The class of a character in a plain scalar: space or not. -/
def plainClass (c : Char) : Nat := if c == ' ' then 0 else 1

/-- The class of a character in a quoted scalar: space, line break, or other. -/
def quotedClass (c : Char) : Nat := if c == ' ' then 0 else if isLineBreak c then 1 else 2

/-- Writes the runs of a plain scalar, folding at a single space past the width. -/
def plainRuns (indent : Nat) (split : Bool) : Pen → List (List Char) → Pen
  | p, [] => p
  | p, run :: rest =>
      if run == [' '] && p.column > bestWidth && split then
        plainRuns indent split { p.indent indent with whitespace := false, indention := false } rest
      else plainRuns indent split (p.put (String.ofList run)) rest

/-- Writes a plain scalar; one that is the whole document leaves it open. -/
def writePlain (p : Pen) (text : String) (indent : Nat) (split root : Bool) : Pen :=
  let p := if root then { p with openEnded := true } else p
  if text.isEmpty then p
  else
    let p := if p.whitespace then p else p.put " "
    plainRuns indent split { p with whitespace := false, indention := false }
      (runsBy plainClass text.toList)

/-- Writes the line breaks of a quoted scalar: a first line feed is doubled, since one line feed
alone folds into a space. -/
def quotedBreaks (p : Pen) (brks : List Char) (indent : Nat) : Pen :=
  let p := if brks.head? == some '\n' then p.lineBreak else p
  let p := brks.foldl (fun p b => if b == '\n' then p.lineBreak else p.lineBreak (String.singleton b)) p
  p.indent indent

/-- Writes the runs of a single-quoted scalar; `first` marks the run at its start. -/
def singleRuns (indent : Nat) (split : Bool) : Pen → Bool → List (List Char) → Pen
  | p, _, [] => p
  | p, first, run :: rest =>
      let last := rest.isEmpty
      match run with
      | ' ' :: more =>
          if more.isEmpty && p.column > bestWidth && split && !first && !last then
            singleRuns indent split (p.indent indent) false rest
          else singleRuns indent split (p.put (String.ofList run)) false rest
      | c :: _ =>
          if isLineBreak c then singleRuns indent split (quotedBreaks p run indent) false rest
          else
            let doubled := run.flatMap fun x => if x == '\'' then ['\'', '\''] else [x]
            singleRuns indent split (p.put (String.ofList doubled)) false rest
      | [] => singleRuns indent split p false rest

/-- Writes a single-quoted scalar. -/
def writeSingle (p : Pen) (text : String) (indent : Nat) (split : Bool) : Pen :=
  let p := p.indicator "'" true
  (singleRuns indent split p true (runsBy quotedClass text.toList)).indicator "'" false

/-- The uppercase hexadecimal digits of `n`, at least `width` of them. -/
def hexUpper (width n : Nat) : String := String.ofList ((hexDigits width n).map Char.toUpper)

/-- The escape of a character in a double-quoted scalar. -/
def escapeOf (c : Char) : String :=
  match c with
  | '\x00' => "\\0"
  | '\x07' => "\\a"
  | '\x08' => "\\b"
  | '\t' => "\\t"
  | '\n' => "\\n"
  | '\x0B' => "\\v"
  | '\x0C' => "\\f"
  | '\r' => "\\r"
  | '\x1B' => "\\e"
  | '"' => "\\\""
  | '\\' => "\\\\"
  | '\x85' => "\\N"
  | '\xA0' => "\\_"
  | '\u2028' => "\\L"
  | '\u2029' => "\\P"
  | _ =>
      let n := Text.codeOf c
      if n ≤ 0xFF then "\\x" ++ hexUpper 2 n
      else if n ≤ 0xFFFF then "\\u" ++ hexUpper 4 n
      else "\\U" ++ hexUpper 8 n

/-- Whether a character is escaped in a double-quoted scalar. -/
def needsEscape (c : Char) : Bool :=
  "\"\\\x85\u2028\u2029\uFEFF".toList.contains c ||
    !(('\x20' ≤ c ∧ c ≤ '\x7E') || ('\xA0' ≤ c ∧ c ≤ '\uD7FF') || ('\uE000' ≤ c ∧ c ≤ '\uFFFD'))

/-- Writes the characters of a double-quoted scalar from position `i`; `start` is where the
unwritten text begins. A line folds at a space past the width, the fold marked by a backslash. -/
def doubleChars (text : Array Char) (indent : Nat) (split : Bool) :
    Nat → Nat → Nat → Pen → Pen
  | 0, _, _, p => p
  | fuel + 1, i, start, p =>
      if i > text.size then p
      else
        let ch := text[i]?
        let slice := fun (a b : Nat) => String.ofList ((text.toList.drop a).take (b - a))
        let (p, start) :=
          match ch with
          | some c =>
              if needsEscape c then
                let p := if start < i then p.put (slice start i) else p
                (p.put (escapeOf c), i + 1)
              else (p, start)
          | none => ((if start < i then p.put (slice start i) else p), i)
        let (p, start) :=
          if 0 < i && i + 1 < text.size && (ch == some ' ' || start ≥ i) &&
              p.column + i > bestWidth + start && split then
            let p := p.put (slice start i ++ "\\")
            let start := if start < i then i else start
            let p := { p.indent indent with whitespace := false, indention := false }
            let p := if text[start]? == some ' ' then p.put "\\" else p
            (p, start)
          else (p, start)
        doubleChars text indent split fuel (i + 1) start p

/-- Writes a double-quoted scalar. -/
def writeDouble (p : Pen) (text : String) (indent : Nat) (split : Bool) : Pen :=
  let cs := text.toList.toArray
  let p := p.indicator "\"" true
  (doubleChars cs indent split (cs.size + 1) 0 0 p).indicator "\"" false

/-- The indicator of a literal block: the indentation when the text starts with a blank, and
`-` when no line break ends it or `+` when more than one does. -/
def literalHints (cs : List Char) : String :=
  let lead := match cs.head? with
    | some c => if c == ' ' || isLineBreak c then "2" else ""
    | none => ""
  let chomp := match cs.reverse with
    | c :: rest =>
        if !isLineBreak c then "-"
        else match rest with
          | [] => "+"
          | d :: _ => if isLineBreak d then "+" else ""
    | [] => ""
  lead ++ chomp

/-- Writes the runs of a literal block: lines at the indentation, each ended as written. -/
def literalRuns (indent : Nat) : Pen → List (List Char) → Pen
  | p, [] => p
  | p, run :: rest =>
      match run with
      | c :: _ =>
          if isLineBreak c then
            let p := run.foldl (fun p b => if b == '\n' then p.lineBreak else p.lineBreak (String.singleton b)) p
            literalRuns indent (if rest.isEmpty then p else p.indent indent) rest
          else
            let p := p.put (String.ofList run)
            literalRuns indent (if rest.isEmpty then p.lineBreak else p) rest
      | [] => literalRuns indent p rest

/-- Writes a literal block; one kept with all its final line breaks leaves the document open. -/
def writeLiteral (p : Pen) (text : String) (indent : Nat) : Pen :=
  let cs := text.toList
  let hints := literalHints cs
  let p := p.indicator ("|" ++ hints) true
  let p := if hints.endsWith "+" then { p with openEnded := true } else p
  let p := p.lineBreak
  let runs := runsBy (fun c => if isLineBreak c then 1 else 0) cs
  let p := match runs with
    | (c :: _) :: _ => if isLineBreak c then p else p.indent indent
    | _ => p
  literalRuns indent p runs

/-- The scalar a value is written as; none for a collection. Writing an integer of too many
digits fails. -/
def scalarOf : Value → Except Failure (Option Scalar)
  | .null => .ok (some ⟨"null", "!!null", resolve "null" == .null, false, false⟩)
  | .bool b =>
      let t := if b then "true" else "false"
      .ok (some ⟨t, "!!bool", resolve t == .bool, false, false⟩)
  | .int n => do
      let t ← intText n
      pure (some ⟨t, "!!int", resolve t == .int, false, false⟩)
  | .float x =>
      let t := Decimal.Notation.yaml.write x
      .ok (some ⟨t, "!!float", resolve t == .float, false, false⟩)
  | .str s => .ok (some ⟨s, "!!str", resolve s == .str, true, false⟩)
  | .bytes bs => .ok (some ⟨Base64.encodeLines bs, "!!binary", false, false, true⟩)
  | .stamp t => .ok (some ⟨t.text, "!!timestamp", resolve t.text == .timestamp, false, false⟩)
  | _ => .ok none

/-! ## Ordering keys -/

/-- The entries of a mapping in the order they are written: by key when the keys can be
ordered, else as they stand. -/
def orderedPairs (h : Heap) (kvs : Entries) : Entries :=
  ((Sort.adaptive? (fun (a b : Value × Value) => Value.keyBefore? (a.1.deref h) (b.1.deref h))
    kvs.toArray).map Array.toList).getD kvs

/-! ## Anchors -/

/-- Whether an object shared by several places is written once and aliased elsewhere: empty
tuples and the scalars that are no timestamp are written in full at every place. -/
def aliasable : Value → Bool
  | .tuple [] => false
  | .tuple _ | .list _ | .set _ | .obj _ | .stamp _ => true
  | _ => false

/-- The name of the `n`th anchor. -/
def anchorName (n : Nat) : String :=
  let ds := toString n
  "id" ++ String.ofList (List.replicate (3 - ds.length) '0') ++ ds

/-- The nodes inside a value, in the order they are written. -/
def nodesIn (h : Heap) : Value → List Value
  | .tuple xs | .list xs => xs
  | .obj kvs => (orderedPairs h kvs).flatMap fun (k, w) => [k, w]
  | _ => []

/-- The objects seen so far by the walk that numbers anchors, and the anchors given. -/
structure Marks where
  seen : Array Bool
  anchors : Array (Option Nat)
  next : Nat := 1

/-- Numbers the anchors of the objects met a second time, in the order they are met again. -/
def markNode (h : Heap) : Nat → Marks → Value → Marks
  | 0, m, _ => m
  | fuel + 1, m, v =>
      match v with
      | .ref i =>
          let t := h.getD i .null
          if !aliasable t then (nodesIn h t).foldl (markNode h fuel) m
          else if m.seen.getD i false then
            if (m.anchors.getD i none).isSome then m
            else { m with anchors := m.anchors.setIfInBounds i (some m.next), next := m.next + 1 }
          else (nodesIn h t).foldl (markNode h fuel) { m with seen := m.seen.setIfInBounds i true }
      | v => (nodesIn h v).foldl (markNode h fuel) m

/-! ## Writing nodes -/

/-- What a collection is written as: the items of a sequence, or the tag and pairs of a
mapping. -/
inductive Shape where
  | seq (items : List Value)
  | map (tag : Option String) (pairs : Entries)

/-- The shape of a collection; none for a scalar. -/
def shapeOf (h : Heap) : Value → Option Shape
  | .tuple xs | .list xs => some (.seq xs)
  | .set xs => some (.map (some "!!set") (orderedPairs h (xs.map fun k => (k, .null))))
  | .obj kvs => some (.map none (orderedPairs h kvs))
  | _ => none

/-- Where a node is written: the indentation of the collection around it, none at the top, and
whether it is the whole document, a key or value of a mapping, and a key before `:` on its
line. -/
structure Place where
  indent : Option Nat
  root : Bool := false
  inMapping : Bool := false
  simpleKey : Bool := false

/-- The indentation of a scalar at a place: two more than the collection around it. -/
def Place.scalarIndent (pl : Place) : Nat :=
  match pl.indent with
  | some i => i + 2
  | none => 2

/-- Writes a scalar at a place. -/
def writeScalar (p : Pen) (pl : Place) (s : Scalar) : Pen :=
  let style := chooseStyle (analyze s.text) s pl.simpleKey
  let p := if tagShown s style then p.indicator s.tag true else p
  let ind := pl.scalarIndent
  let split := !pl.simpleKey
  match style with
  | .plain => writePlain p s.text ind split pl.root
  | .single => writeSingle p s.text ind split
  | .double => writeDouble p s.text ind split
  | .literal => writeLiteral p s.text ind

/-- Whether a key is written before `:` on its line: a scalar on one line, not empty, whose tag
and text are short. -/
def simpleKey (h : Heap) (k : Value) : Except Failure Bool := do
  match ← scalarOf (k.deref h) with
  | some s =>
      let a := analyze s.text
      pure (s.tag.length + s.text.length < 128 && !a.empty && !a.multiline)
  | none => pure false

/-- The output so far and the shared objects written already. -/
structure Out where
  pen : Pen
  written : Array Bool

/-- Writes a node at a place: a shared object met before as its alias, else its anchor if it has
one and then the object. -/
def writeNode (h : Heap) (anchors : Array (Option Nat)) : Nat → Out → Place → Value →
    Except Failure Out
  | 0, o, _, _ => .ok o
  | fuel + 1, o, pl, v => do
      let (o, target) := match v with
        | .ref i =>
            let t := h.getD i .null
            if !aliasable t then (o, some t)
            else
              let name := (anchors.getD i none).map anchorName
              if o.written.getD i false then
                ({ o with pen := o.pen.indicator ("*" ++ name.getD "") true }, none)
              else
                let o := { o with written := o.written.setIfInBounds i true }
                match name with
                | some n => ({ o with pen := o.pen.indicator ("&" ++ n) true }, some t)
                | none => (o, some t)
        | v => (o, some v)
      match target with
      | none => pure o
      | some t =>
          match shapeOf h t with
          | none =>
              match ← scalarOf t with
              | some s => pure { o with pen := writeScalar o.pen pl s }
              | none => pure o
          | some (.seq items) =>
              if items.isEmpty then
                pure { o with pen := (o.pen.indicator "[" true true).indicator "]" false }
              else
                let indentless := pl.inMapping && !o.pen.indention
                let ind := match pl.indent with
                  | none => 0
                  | some i => if indentless then i else i + 2
                let item := fun (o : Out) (x : Value) =>
                  let pen := (o.pen.indent ind).indicator "-" true false true
                  writeNode h anchors fuel { o with pen := pen } ⟨some ind, false, false, false⟩ x
                items.foldlM item o
          | some (.map tag pairs) =>
              let o := match tag with
                | some tg => { o with pen := o.pen.indicator tg true }
                | none => o
              if pairs.isEmpty then
                pure { o with pen := (o.pen.indicator "\x7b" true true).indicator "\x7d" false }
              else
                let ind := match pl.indent with
                  | none => 0
                  | some i => i + 2
                let entry := fun (o : Out) (kv : Value × Value) => do
                  let o := { o with pen := o.pen.indent ind }
                  if ← simpleKey h kv.1 then
                    let o ← writeNode h anchors fuel o ⟨some ind, false, true, true⟩ kv.1
                    let o := { o with pen := o.pen.indicator ":" false }
                    writeNode h anchors fuel o ⟨some ind, false, true, false⟩ kv.2
                  else
                    let o := { o with pen := o.pen.indicator "?" true false true }
                    let o ← writeNode h anchors fuel o ⟨some ind, false, true, false⟩ kv.1
                    let o := { o with pen := (o.pen.indent ind).indicator ":" true false true }
                    writeNode h anchors fuel o ⟨some ind, false, true, false⟩ kv.2
                pairs.foldlM entry o

end Templating.Yaml

namespace Templating.Value

/-- The value as a YAML document, its references followed through the heap. -/
def toYaml (h : Heap) (v : Value) : Except Failure String := do
  let fuel := reach h v + 1
  let marks := Yaml.markNode h fuel ⟨Array.replicate h.size false, Array.replicate h.size none, 1⟩ v
  let o ← Yaml.writeNode h marks.anchors fuel ⟨{}, Array.replicate h.size false⟩ ⟨none, true, false, false⟩ v
  let p := o.pen.indent 0
  pure (if p.openEnded then ((p.indicator "..." true).indent 0).out else p.out)

end Templating.Value
