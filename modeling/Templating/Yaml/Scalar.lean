import Templating.Yaml.Scanner
import Templating.Text.Surrogate

/-!
# Reading YAML scalars

A plain scalar runs to a blank before `#`, to `: ` (and in flow context to `,`, `[`, `]`, `{`,
`}` or `?`, and to a `:` before one of them), and continues on later lines that are indented
further than the collection it belongs to. Line breaks in it fold: a single break becomes a
space, and each further empty line a line break.

A single-quoted scalar writes its quote twice; a double-quoted scalar has backslash escapes,
among them `\x`, `\u` and `\U` with two, four and eight hexadecimal digits, and an escaped line
break that joins two lines. Both fold line breaks as plain scalars do.

A block scalar, `|` for literal and `>` for folded, may give an indentation and a chomping
indicator in its header. Its lines are those indented at least as far as its first nonempty
line, or as the indicator says. A folded scalar joins two lines by a space where neither starts
with a blank; the final line breaks are dropped by `-`, all kept by `+`, and else one is kept.
-/

namespace Templating.Yaml

namespace Scanner

/-- Reads the spaces and line breaks after a chunk of a plain scalar: the text they fold to,
or `none` when a document marker starts the next line. -/
def plainSpaces (s : Scanner) : Option (List Char) × Scanner :=
  let n := s.spanFrom (· == ' ') s.fuel 0
  let spaces := s.ahead n
  let s := s.forward n
  match s.lineBreak with
  | (some br, s) =>
      let s := { s with allowSimpleKey := true }
      if s.atDocumentMarker then (none, s)
      else
        let rec breaks : Nat → Scanner → List Char → Option (List Char) × Scanner
          | 0, s, acc => (some acc.reverse, s)
          | fuel + 1, s, acc =>
              if s.peek == ' ' then breaks fuel s.step acc
              else match s.lineBreak with
                | (some b, s) => if s.atDocumentMarker then (none, s) else breaks fuel s (b :: acc)
                | (none, s) => (some acc.reverse, s)
        match breaks s.fuel s [] with
        | (none, s) => (none, s)
        | (some bs, s) =>
            let lead := if br != '\n' then [br] else if bs.isEmpty then [' '] else []
            (some (lead ++ bs), s)
  | (none, s) => (some spaces, s)

/-- Whether a plain scalar ends at offset `k`. -/
def plainEndsAt (s : Scanner) (k : Nat) : Bool :=
  let c := s.peekAt k
  let flow := s.flowLevel != 0
  isBlankOrEnd c ||
    (c == ':' && (isBlankOrEnd (s.peekAt (k + 1)) || (flow && ",[]\x7b\x7d".toList.contains (s.peekAt (k + 1))))) ||
    (flow && ",?[]\x7b\x7d".toList.contains c)

/-- The length of the chunk of a plain scalar from offset `k`. -/
def plainLength (s : Scanner) : Nat → Nat → Nat
  | 0, k => k
  | fuel + 1, k => if s.plainEndsAt k then k else s.plainLength fuel (k + 1)

/-- Reads a plain scalar. -/
def plain (s : Scanner) : Scanner × String :=
  let indent := s.indent + 1
  let rec go : Nat → Scanner → String → List Char → Scanner × String
    | 0, s, chunks, _ => (s, chunks)
    | fuel + 1, s, chunks, spaces =>
        if s.peek == '#' then (s, chunks)
        else
          let len := s.plainLength s.fuel 0
          if len == 0 then (s, chunks)
          else
            let chunks := chunks ++ String.ofList spaces ++ String.ofList (s.ahead len)
            let s := { (s.forward len) with allowSimpleKey := false }
            match s.plainSpaces with
            | (some sp, s) =>
                if sp.isEmpty || s.peek == '#' || (s.flowLevel == 0 && (s.column : Int) < indent)
                then (s, chunks)
                else go fuel s chunks sp
            | (none, s) => (s, chunks)
  go s.fuel s "" []

/-- The character a one-letter escape of a double-quoted scalar stands for. -/
def escapeChar? : Char → Option Char
  | '0' => some '\x00'
  | 'a' => some (Char.ofNat 7)
  | 'b' => some (Char.ofNat 8)
  | 't' => some '\t'
  | '\t' => some '\t'
  | 'n' => some '\n'
  | 'v' => some (Char.ofNat 11)
  | 'f' => some (Char.ofNat 12)
  | 'r' => some '\r'
  | 'e' => some (Char.ofNat 27)
  | ' ' => some ' '
  | '"' => some '"'
  | '/' => some '/'
  | '\\' => some '\\'
  | 'N' => some '\x85'
  | '_' => some (Char.ofNat 0xA0)
  | 'L' => some '\u2028'
  | 'P' => some '\u2029'
  | _ => none

/-- The number of hexadecimal digits of a code escape. -/
def escapeWidth? : Char → Option Nat
  | 'x' => some 2
  | 'u' => some 4
  | 'U' => some 8
  | _ => none

/-- The fault of a code escape beyond the last character: a code past the machine integers
overflows before it is checked. -/
def beyondUnicode (code : Nat) : Failure :=
  if code > 0x7FFFFFFF then Failure.uncaught "OverflowError" "Python int too large to convert to C int"
  else Failure.uncaught "ValueError" "chr() arg not in range(0x110000)"

/-- Reads the empty lines inside a quoted scalar that starts at `start`, the breaks read so far
kept last first; fails on a document marker. -/
def quotedBreaks (start : Mark) : Nat → Scanner → List Char → Except Stop (List Char × Scanner)
  | 0, s, acc => .ok (acc.reverse, s)
  | fuel + 1, s, acc =>
      if s.atDocumentMarker then
        refuse (some "while scanning a quoted scalar") (some start) "found unexpected document separator" s.mark
      else
        let s := s.skipWhile (fun c => c == ' ' || c == '\t') s.fuel
        match s.lineBreak with
        | (some b, s) => quotedBreaks start fuel s (b :: acc)
        | (none, s) => .ok (acc.reverse, s)

/-- Reads characters of a quoted scalar that starts at `start` up to blanks, a line break or its
closing quote. -/
def quotedChunk (double : Bool) (start : Mark) : Nat → Scanner → String → Except Stop (String × Scanner)
  | 0, s, acc => .ok (acc, s)
  | fuel + 1, s, acc =>
      let n := s.spanFrom (fun c => !("'\"\\".toList.contains c || isBlankOrEnd c)) s.fuel 0
      let acc := acc ++ String.ofList (s.ahead n)
      let s := s.forward n
      let c := s.peek
      let what := some "while scanning a double-quoted scalar"
      if !double && c == '\'' && s.peekAt 1 == '\'' then quotedChunk double start fuel (s.forward 2) (acc.push '\'')
      else if (double && c == '\'') || (!double && (c == '"' || c == '\\')) then
        quotedChunk double start fuel s.step (acc.push c)
      else if double && c == '\\' then
        let s := s.step
        let e := s.peek
        match escapeChar? e, escapeWidth? e with
        | some r, _ => quotedChunk double start fuel s.step (acc.push r)
        | none, some w =>
            let s := s.step
            let ds := s.ahead w
            match ds.find? (!isHexDigit ·) with
            | some bad =>
                refuse what (some start) ("expected escape sequence of " ++ toString w ++
                  " hexadecimal numbers, but found " ++ charLiteral bad) s.mark
            | none =>
                let code := ds.foldl (fun n d => 16 * n + hexDigitValue d) 0
                if code > 0x10FFFF then .error (.fault (beyondUnicode code))
                else quotedChunk double start fuel (s.forward w) (acc.push (Text.charOfCode code))
        | none, none =>
            if isBreak e then
              let (_, s) := s.lineBreak
              match quotedBreaks start s.fuel s [] with
              | .ok (bs, s) => quotedChunk double start fuel s (acc ++ String.ofList bs)
              | .error stop => .error stop
            else refuse what (some start) ("found unknown escape character " ++ charLiteral e) s.mark
      else .ok (acc, s)

/-- Reads the blanks and line breaks inside a quoted scalar that starts at `start`, and what they
fold to; fails at the end of the text. -/
def quotedSpaces (start : Mark) (s : Scanner) : Except Stop (List Char × Scanner) :=
  let n := s.spanFrom (fun c => c == ' ' || c == '\t') s.fuel 0
  let blanks := s.ahead n
  let s := s.forward n
  if s.peek == '\x00' then
    refuse (some "while scanning a quoted scalar") (some start) "found unexpected end of stream" s.mark
  else match s.lineBreak with
    | (some br, s) => do
        let (bs, s) ← quotedBreaks start s.fuel s []
        let lead := if br != '\n' then [br] else if bs.isEmpty then [' '] else []
        pure (lead ++ bs, s)
    | (none, s) => .ok (blanks, s)

/-- Reads a quoted scalar, its opening quote next. -/
def quoted (double : Bool) (s : Scanner) : Except Stop (Scanner × String) := do
  let start := s.mark
  let q := s.peek
  let (first, s) ← quotedChunk double start s.fuel s.step ""
  let rec go : Nat → Scanner → String → Except Stop (Scanner × String)
    | 0, s, _ =>
        refuse (some "while scanning a quoted scalar") (some start) "found unexpected end of stream" s.mark
    | fuel + 1, s, acc =>
        if s.peek == q then .ok (s.step, acc)
        else do
          let (sp, s) ← quotedSpaces start s
          let (ch, s) ← quotedChunk double start s.fuel s (acc ++ String.ofList sp)
          go fuel s ch
  go s.fuel s first

/-- Reads the header of a block scalar that starts at `start`, after its `|` or `>`: the chomping
(`some true` keeps, `some false` strips) and the indentation increment. -/
def blockHeader (start : Mark) (s : Scanner) : Except Stop (Option Bool × Option Nat × Scanner) := do
  let what := some "while scanning a block scalar"
  let digit (c : Char) : Option Nat := if '0' ≤ c ∧ c ≤ '9' then some (c.toNat - 48) else none
  let zero (s : Scanner) : Except Stop (Option Bool × Option Nat × Scanner) :=
    refuse what (some start) "expected indentation indicator in the range 1-9, but found 0" s.mark
  let c := s.peek
  let (chomp, inc, s) ← if c == '+' || c == '-' then
      let s1 := s.step
      match digit s1.peek with
      | some 0 => zero s1
      | some d => pure (some (c == '+'), some d, s1.step)
      | none => pure (some (c == '+'), none, s1)
    else match digit c with
      | some 0 => zero s
      | some d =>
          let s1 := s.step
          let c1 := s1.peek
          if c1 == '+' || c1 == '-' then pure (some (c1 == '+'), some d, s1.step)
          else pure (none, some d, s1)
      | none => pure (none, none, s)
  if !(s.peek == ' ' || isBreakOrEnd s.peek) then
    refuse what (some start) ("expected chomping or indentation indicators, but found " ++
      charLiteral s.peek) s.mark
  else pure (chomp, inc, s)

/-- Skips the rest of the header line of a block scalar that starts at `start`: blanks and a
comment. -/
def headerRest (start : Mark) (s : Scanner) : Except Stop Scanner :=
  let s := s.skipWhile (· == ' ') s.fuel
  let s := if s.peek == '#' then s.skipWhile (fun c => !isBreakOrEnd c) s.fuel else s
  if isBreakOrEnd s.peek then .ok s.lineBreak.2
  else refuse (some "while scanning a block scalar") (some start)
    ("expected a comment or a line break, but found " ++ charLiteral s.peek) s.mark

/-- Reads the leading empty lines of a block scalar without an indentation indicator, and the
greatest indentation among them; the breaks read so far are kept last first. -/
def blockIndentation : Nat → Scanner → List Char → Nat → List Char × Nat × Scanner
  | 0, s, acc, m => (acc.reverse, m, s)
  | fuel + 1, s, acc, m =>
      if s.peek == ' ' then
        let s := s.step
        blockIndentation fuel s acc (max m s.column)
      else match s.lineBreak with
        | (some b, s) => blockIndentation fuel s (b :: acc) m
        | (none, s) => (acc.reverse, m, s)

/-- Reads the empty lines of a block scalar up to the indentation `indent`, the breaks read so
far kept last first. -/
def blockBreaks (indent : Nat) : Nat → Scanner → List Char → List Char × Scanner
  | 0, s, acc => (acc.reverse, s)
  | fuel + 1, s, acc =>
      let s := s.skipWhile (· == ' ') (indent - s.column)
      match s.lineBreak with
      | (some b, s) => blockBreaks indent fuel s (b :: acc)
      | (none, s) => (acc.reverse, s)

/-- Reads a block scalar, its `|` or `>` next. -/
def block (folded : Bool) (s : Scanner) : Except Stop (Scanner × String) := do
  let start := s.mark
  let (chomp, inc, s) ← blockHeader start s.step
  let s ← headerRest start s
  let minIndent : Nat := max (s.indent + 1).toNat 1
  let (breaks, indent, s) := match inc with
    | none =>
        let (bs, m, s) := blockIndentation s.fuel s [] 0
        (bs, max minIndent m, s)
    | some i =>
        let indent := minIndent + i - 1
        let (bs, s) := blockBreaks indent s.fuel s []
        (bs, indent, s)
  let rec body : Nat → Scanner → String → List Char → Option Char →
      String × List Char × Option Char × Scanner
    | 0, s, chunks, breaks, lb => (chunks, breaks, lb, s)
    | fuel + 1, s, chunks, breaks, lb =>
        if s.column == indent && s.peek != '\x00' then
          let chunks := chunks ++ String.ofList breaks
          let leadingNonSpace := !(s.peek == ' ' || s.peek == '\t')
          let n := s.spanFrom (fun c => !isBreakOrEnd c) s.fuel 0
          let chunks := chunks ++ String.ofList (s.ahead n)
          let s := s.forward n
          let (lb, s) := s.lineBreak
          let (breaks, s) := blockBreaks indent s.fuel s []
          if s.column == indent && s.peek != '\x00' then
            let joint :=
              if folded && lb == some '\n' && leadingNonSpace && !(s.peek == ' ' || s.peek == '\t')
              then (if breaks.isEmpty then [' '] else [])
              else lb.toList
            body fuel s (chunks ++ String.ofList joint) breaks lb
          else (chunks, breaks, lb, s)
        else (chunks, breaks, lb, s)
  let (chunks, breaks, lb, s) := body s.fuel s "" breaks none
  let chunks := if chomp != some false then chunks ++ String.ofList lb.toList else chunks
  let chunks := if chomp == some true then chunks ++ String.ofList breaks else chunks
  pure (s, chunks)

end Scanner

end Templating.Yaml
