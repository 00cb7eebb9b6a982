import Templating.Yaml.Scalar
import Templating.Codec.Decode

/-!
# The token stream of a YAML text

`tokenize` reads a whole text into its tokens. Each round skips to the next token, drops the
simple keys that went stale, closes the block collections the column leaves, and reads one token
by its first character: `%` at the start of a line a directive, `---` and `...` document
markers, brackets and braces flow collections, `-`, `?` and `:` before a blank block entries,
keys and values, `*`, `&` and `!` aliases, anchors and tags, `|` and `>` block scalars, quotes
quoted scalars, and any other character that can start one a plain scalar. Any other character
cannot start a token.

A text with a character that YAML does not allow is refused before scanning.

A parser reads the tokens as they are made, and a token that may start a simple key only once it
is known whether it does. When a step fails, `Halt.visible` tells how many tokens a parser reads
before it asks for more: a fault of the document among those comes first. A simple key that had
to be a key goes stale as soon as the scanner leaves its line, before the parser reads on.
-/

namespace Templating.Yaml

namespace Scanner

/-- Reads an anchor or alias name after its `*` or `&`. -/
def anchorName (star : Bool) (s : Scanner) : Except Stop (Scanner × String) :=
  let start := s.mark
  let what := some (if star then "while scanning an alias" else "while scanning an anchor")
  let s := s.step
  let n := s.spanFrom isWordChar s.fuel 0
  let wrong (s : Scanner) : Except Stop (Scanner × String) :=
    refuse what (some start) ("expected alphabetic or numeric character, but found " ++ charLiteral s.peek) s.mark
  if n == 0 then wrong s
  else
    let name := String.ofList (s.ahead n)
    let s := s.forward n
    if isBlankOrEnd s.peek || "?:,]\x7d%@\x60".toList.contains s.peek then .ok (s, name) else wrong s

/-- Reads the `%XX` escapes of a tag, read as UTF-8, for a `what` that starts at `start`. -/
def uriEscapes (what : String) (start : Mark) (s : Scanner) : Except Stop (Scanner × String) := do
  let first := s.mark
  let rec bytes : Nat → Scanner → List UInt8 → Except Stop (Scanner × List UInt8)
    | 0, s, acc => .ok (s, acc)
    | fuel + 1, s, acc =>
        if s.peek == '%' then
          let s := s.step
          match (s.ahead 2).find? (!isHexDigit ·) with
          | some bad =>
              refuse (some ("while scanning a " ++ what)) (some start)
                ("expected URI escape sequence of 2 hexadecimal numbers, but found " ++ charLiteral bad) s.mark
          | none =>
              let b := hexDigitValue (s.peekAt 0) * 16 + hexDigitValue (s.peekAt 1)
              bytes fuel (s.forward 2) (acc ++ [b.toUInt8])
        else .ok (s, acc)
  let (s, bs) ← bytes s.fuel s []
  match Codec.utf8Chars bs 0 [] with
  | .ok cs => pure (s, String.ofList cs)
  | .error e => refuse (some ("while scanning a " ++ what)) (some start) e.message first

/-- Reads the URI part of a tag, for a `what` that starts at `start`. -/
def tagUri (what : String) (start : Mark) : Nat → Scanner → List Char → Except Stop (Scanner × String)
  | 0, s, acc => .ok (s, String.ofList acc)
  | fuel + 1, s, acc =>
      let c := s.peek
      if c == '%' then do
        let (s', text) ← uriEscapes what start s
        tagUri what start fuel s' (acc ++ text.toList)
      else if isUriChar c then tagUri what start fuel s.step (acc ++ [c])
      else if acc.isEmpty then
        refuse (some ("while parsing a " ++ what)) (some start) ("expected URI, but found " ++ charLiteral c) s.mark
      else .ok (s, String.ofList acc)

/-- Reads a tag handle, `!`, `!!` or `!word!`, for a `what` that starts at `start`. -/
def tagHandle (what : String) (start : Mark) (s : Scanner) : Except Stop (Scanner × String) :=
  let wrong (s : Scanner) (c : Char) : Except Stop (Scanner × String) :=
    refuse (some ("while scanning a " ++ what)) (some start) ("expected '!', but found " ++ charLiteral c) s.mark
  if s.peek != '!' then wrong s s.peek
  else if s.peekAt 1 == ' ' then .ok (s.step, "!")
  else
    let n := s.spanFrom isWordChar s.fuel 1
    if s.peekAt n != '!' then wrong (s.forward n) (s.peekAt n)
    else .ok (s.forward (n + 1), String.ofList (s.ahead (n + 1)))

/-- Whether a character ends a tag or a directive's part: a space, a line break or the end. -/
def endsPart (c : Char) : Bool := c == '\x00' || c == ' ' || isBreak c

/-- Reads a tag: verbatim `!<uri>`, the lone `!`, or a handle and a suffix. -/
def tag (s : Scanner) : Except Stop (Scanner × Token) := do
  let start := s.mark
  let c := s.peekAt 1
  let (s, t) ← if c == '<' then do
      let (s, uri) ← tagUri "tag" start s.fuel (s.forward 2) []
      if s.peek != '>' then
        refuse (some "while parsing a tag") (some start) ("expected '>', but found " ++ charLiteral s.peek) s.mark
      else pure (s.step, Token.tag none uri)
    else if isBlankOrEnd c then pure (s.step, Token.tag none "!")
    else
      -- a handle is used when another `!` follows before a blank
      let rec hasBang : Nat → Nat → Bool
        | 0, _ => false
        | fuel + 1, k =>
            let d := s.peekAt k
            if endsPart d then false
            else if d == '!' then true else hasBang fuel (k + 1)
      if hasBang s.fuel 1 then do
        let (s, handle) ← tagHandle "tag" start s
        let (s, suffix) ← tagUri "tag" start s.fuel s []
        pure (s, Token.tag (some handle) suffix)
      else do
        let (s, suffix) ← tagUri "tag" start s.fuel s.step []
        pure (s, Token.tag (some "!") suffix)
  if endsPart s.peek then pure (s, t)
  else refuse (some "while scanning a tag") (some start) ("expected ' ', but found " ++ charLiteral s.peek) s.mark

/-- Skips the rest of the line of a directive that starts at `start`: blanks and a comment. -/
def directiveRest (start : Mark) (s : Scanner) : Except Stop Scanner :=
  let s := s.skipWhile (· == ' ') s.fuel
  let s := if s.peek == '#' then s.skipWhile (fun c => !isBreakOrEnd c) s.fuel else s
  if isBreakOrEnd s.peek then .ok s.lineBreak.2
  else refuse (some "while scanning a directive") (some start)
    ("expected a comment or a line break, but found " ++ charLiteral s.peek) s.mark

/-- Reads a decimal number of a `YAML` directive that starts at `start`; a number of more than
`digitLimit` digits is too long to read. -/
def versionNumber (start : Mark) (s : Scanner) : Except Stop (Scanner × Nat) :=
  let n := s.spanFrom (fun c => '0' ≤ c ∧ c ≤ '9') s.fuel 0
  if n == 0 then
    refuse (some "while scanning a directive") (some start) ("expected a digit, but found " ++ charLiteral s.peek) s.mark
  else if n > digitLimit then
    .error (.fault (Failure.badValue ("Exceeds the limit (4300 digits) for integer string conversion: value has " ++
      toString n ++ " digits; use sys.set_int_max_str_digits() to increase the limit")))
  else .ok (s.forward n, (s.ahead n).foldl (fun v d => 10 * v + (d.toNat - 48)) 0)

/-- Reads a directive after its `%`: the scanner after the directive's line, the token, and the
place where the token ends. -/
def directive (s : Scanner) : Except Stop (Scanner × Token × Mark) := do
  let start := s.mark
  let what := some "while scanning a directive"
  let s := s.step
  let n := s.spanFrom isWordChar s.fuel 0
  if n == 0 then
    refuse what (some start) ("expected alphabetic or numeric character, but found " ++ charLiteral s.peek) s.mark
  let name := String.ofList (s.ahead n)
  let s := s.forward n
  if !endsPart s.peek then
    refuse what (some start) ("expected alphabetic or numeric character, but found " ++ charLiteral s.peek) s.mark
  if name == "YAML" then do
    let s := s.skipWhile (· == ' ') s.fuel
    let (s, major) ← versionNumber start s
    if s.peek != '.' then
      refuse what (some start) ("expected a digit or '.', but found " ++ charLiteral s.peek) s.mark
    let (s, minor) ← versionNumber start s.step
    if !endsPart s.peek then
      refuse what (some start) ("expected a digit or ' ', but found " ++ charLiteral s.peek) s.mark
    let stop := s.mark
    let s ← directiveRest start s
    pure (s, Token.directive name (some (major, minor)) none, stop)
  else if name == "TAG" then do
    let s := s.skipWhile (· == ' ') s.fuel
    let (s, handle) ← tagHandle "directive" start s
    if s.peek != ' ' then
      refuse what (some start) ("expected ' ', but found " ++ charLiteral s.peek) s.mark
    let s := s.skipWhile (· == ' ') s.fuel
    let (s, pre) ← tagUri "directive" start s.fuel s []
    if !endsPart s.peek then
      refuse what (some start) ("expected ' ', but found " ++ charLiteral s.peek) s.mark
    let stop := s.mark
    let s ← directiveRest start s
    pure (s, Token.directive name none (some (handle, pre)), stop)
  else do
    let stop := s.mark
    let s := s.skipWhile (fun c => !isBreakOrEnd c) s.fuel
    let s ← directiveRest start s
    pure (s, Token.directive name none none, stop)

/-- Whether a plain scalar can start here. -/
def plainStarts (s : Scanner) : Bool :=
  let c := s.peek
  let indicators := "-?:,[]\x7b\x7d#&*!|>\x27\"%@\x60".toList
  !(isBlankOrEnd c || indicators.contains c) ||
    (!isBlankOrEnd (s.peekAt 1) && (c == '-' || (s.flowLevel == 0 && (c == '?' || c == ':'))))

/-- Ends the stream. -/
def fetchStreamEnd (s : Scanner) : Except Stop Scanner := do
  let s := unwind (-1) (s.indents.length + 1) s
  let s ← s.removeKey
  pure { (s.pushHere .streamEnd) with allowSimpleKey := false, simpleKeys := [], done := true }

/-- Adds a one-character token and moves past its character. -/
def single (s : Scanner) (t : Token) : Scanner := (s.push t s.mark s.step.mark).step

/-- Reads a value indicator: a remembered simple key before it becomes a key. -/
def fetchValue (s : Scanner) : Except Stop Scanner := do
  let s ← match s.simpleKeys.lookup s.flowLevel with
    | some k =>
        let s := { s with simpleKeys := s.simpleKeys.filter (·.1 != s.flowLevel) }
        let s := s.insertToken k.tokenNumber .key k.mark
        let s := if s.flowLevel == 0 then
            match s.addIndent k.column with
            | some s => s.insertToken k.tokenNumber .blockMappingStart k.mark
            | none => s
          else s
        pure { s with allowSimpleKey := false }
    | none =>
        if s.flowLevel == 0 && !s.allowSimpleKey then
          refuse none none "mapping values are not allowed here" s.mark
        else do
          let s := if s.flowLevel == 0 then
              match s.addIndent s.column with
              | some s => s.pushHere .blockMappingStart
              | none => s
            else s
          let s := { s with allowSimpleKey := s.flowLevel == 0 }
          s.removeKey
  pure (s.single .value)

/-- Reads one token. -/
def fetch (s : Scanner) : Except Stop Scanner := do
  let s := toNextToken s.fuel s
  let s ← s.staleKeys
  let s := unwind s.column (s.indents.length + 1) s
  let c := s.peek
  let start := s.mark
  let blankNext := isBlankOrEnd (s.peekAt 1)
  if c == '\x00' then fetchStreamEnd s
  else if c == '%' && s.column == 0 then do
    let s := unwind (-1) (s.indents.length + 1) s
    let s ← s.removeKey
    let (s', t, stop) ← { s with allowSimpleKey := false }.directive
    pure (s'.push t start stop)
  else if s.column == 0 && (c == '-' || c == '.') && s.atDocumentMarker &&
      s.ahead 3 == [c, c, c] then do
    let s := unwind (-1) (s.indents.length + 1) s
    let s ← s.removeKey
    let t := if c == '-' then Token.documentStart else Token.documentEnd
    let s' := { (s.forward 3) with allowSimpleKey := false }
    pure (s'.push t start s'.mark)
  else if c == '[' || c == '\x7b' then do
    let s ← s.saveKey
    let t := if c == '[' then Token.flowSequenceStart else Token.flowMappingStart
    pure ({ s with flowLevel := s.flowLevel + 1, allowSimpleKey := true }.single t)
  else if c == ']' || c == '\x7d' then do
    let s ← s.removeKey
    let t := if c == ']' then Token.flowSequenceEnd else Token.flowMappingEnd
    pure ({ s with flowLevel := s.flowLevel - 1, allowSimpleKey := false }.single t)
  else if c == ',' then do
    let s ← { s with allowSimpleKey := true }.removeKey
    pure (s.single .flowEntry)
  else if c == '-' && blankNext then do
    let s ← if s.flowLevel == 0 then
        if !s.allowSimpleKey then refuse none none "sequence entries are not allowed here" s.mark
        else match s.addIndent s.column with
          | some s => pure (s.pushHere .blockSequenceStart)
          | none => pure s
      else pure s
    let s ← { s with allowSimpleKey := true }.removeKey
    pure (s.single .blockEntry)
  else if c == '?' && (s.flowLevel != 0 || blankNext) then do
    let s ← if s.flowLevel == 0 then
        if !s.allowSimpleKey then refuse none none "mapping keys are not allowed here" s.mark
        else match s.addIndent s.column with
          | some s => pure (s.pushHere .blockMappingStart)
          | none => pure s
      else pure s
    let s ← { s with allowSimpleKey := s.flowLevel == 0 }.removeKey
    pure (s.single .key)
  else if c == ':' && (s.flowLevel != 0 || blankNext) then fetchValue s
  else if c == '*' || c == '&' then do
    let s ← s.saveKey
    let (s, name) ← { s with allowSimpleKey := false }.anchorName (c == '*')
    pure (s.push (if c == '*' then .alias name else .anchor name) start s.mark)
  else if c == '!' then do
    let s ← s.saveKey
    let (s, t) ← { s with allowSimpleKey := false }.tag
    pure (s.push t start s.mark)
  else if (c == '|' || c == '>') && s.flowLevel == 0 then do
    let s ← { s with allowSimpleKey := true }.removeKey
    let (s, text) ← s.block (c == '>')
    pure (s.push (.scalar text false) start s.mark)
  else if c == '\'' || c == '"' then do
    let s ← s.saveKey
    let (s, text) ← { s with allowSimpleKey := false }.quoted (c == '"')
    pure (s.push (.scalar text false) start s.mark)
  else if s.plainStarts then do
    let s ← s.saveKey
    let (s, text) := { s with allowSimpleKey := false }.plain
    pure (s.push (.scalar text true) start s.mark)
  else
    refuse (some "while scanning for the next token") none
      ("found character " ++ charLiteral c ++ " that cannot start any token") s.mark

/-- What the parser may read of the tokens made so far: their number, and the first token that
may still turn out to start a simple key, which the parser must not read before that is known. -/
structure Reach where
  made : Nat
  pendingKey : Option Nat

/-- The reach of the scanner's state. -/
def reach (s : Scanner) : Reach :=
  let keys := match s.staleKeys with
    | .ok s => s.simpleKeys
    | .error _ => s.simpleKeys
  ⟨s.tokens.size, (keys.map (·.2.tokenNumber)).min?⟩

/-- How far the parser reads at a reach, from token `i` on: up to the tokens made, and not onto
the first pending key. -/
def Reach.advance (r : Reach) (i : Nat) : Nat :=
  let stop := match r.pendingKey with
    | some p => if i ≤ p then min r.made p else r.made
    | none => r.made
  max i stop

/-- A scan that stopped short: why, the tokens made before the step that failed, and the reaches
of the states the parser read at, in order. -/
structure Halt where
  stop : Stop
  tokens : Array Lexeme
  reaches : List Reach

/-- The number of tokens the parser reads before it asks for one that the failed step was to
make. -/
def Halt.visible (h : Halt) : Nat := h.reaches.foldl (fun i r => r.advance i) 0

/-- Reads tokens until the stream ends, keeping the reaches of the states passed, last first. A
state from which a simple key that had to be a key went stale stops the scan at once. -/
def run : Nat → Scanner → List Reach → Except Halt (Array Lexeme)
  | 0, s, rs =>
      .error ⟨.refused (.problem ⟨none, none, "the text is too long to read", s.mark⟩), s.tokens, rs.reverse⟩
  | fuel + 1, s, rs =>
      if s.done then .ok s.tokens
      else match s.staleKeys with
        | .error e => .error ⟨e, s.tokens, rs.reverse⟩
        | .ok _ =>
            let rs := s.reach :: rs
            match s.fetch with
            | .ok s => run fuel s rs
            | .error e => .error ⟨e, s.tokens, rs.reverse⟩

end Scanner

/-- The tokens of a YAML text. A text that holds a character YAML does not allow is refused for
the first such character. -/
def tokenize (text : String) : Except Scanner.Halt (Array Lexeme) :=
  let cs := text.toList.toArray
  match cs.findIdx? (!printable ·) with
  | some i => .error ⟨.refused (.unprintable (cs.getD i ' ').toNat i), #[], []⟩
  | none =>
      let origin : Mark := ⟨0, 0, 0⟩
      let s : Scanner := { src := cs, tokens := #[⟨.streamStart, origin, origin⟩] }
      Scanner.run (2 * cs.size + 4) s []

end Templating.Yaml
