import Templating.Yaml.Token

/-!
# Scanning YAML text into tokens

The scanner follows the indentation of block collections with a stack of columns: a key or
entry further right than the current column opens a collection, and a line that starts further
left closes those it leaves. A plain or quoted scalar may be a simple key, one that is not marked
by `?`: the scanner remembers where such a key could begin and inserts the `key` token there, and
a collection start before it, when a `:` follows on the same line. A simple key that must be a
key, because it starts a line at the current indentation, fails the text when no `:` follows.

Scalars are read with the folding rules of YAML: line breaks inside plain and quoted scalars
fold to spaces, empty lines to line breaks; block scalars keep or fold their lines and chomp the
final breaks as their header says.

Every failure names what the scanner was reading and where it began, when that tells, and what it
found where.

## Implementation notes

The text is held in an array with a position, a line and a column; reading past the end gives
the character `\x00`, which the text itself never holds (`printable`). Every loop consumes a
character per round and is bounded by the number of characters left.
-/

namespace Templating.Yaml

/-- Why scanning stops short of the end: the text is refused, or reading it met a fault, such as
a double-quoted scalar that escapes a code beyond the last character, which no text can hold. -/
inductive Stop where
  | refused (r : Refusal)
  | fault (f : Failure)
  deriving Inhabited

/-- A scan that fails for a problem: what it was reading and where that began, and what it found
where. -/
def refuse {α : Type} (context : Option String) (contextMark : Option Mark) (problem : String)
    (m : Mark) : Except Stop α :=
  .error (.refused (.problem ⟨context, contextMark, problem, m⟩))

/-- A place where a simple key could begin. -/
structure SimpleKey where
  tokenNumber : Nat
  required : Bool
  index : Nat
  line : Nat
  column : Nat

/-- The place where a simple key begins. -/
def SimpleKey.mark (k : SimpleKey) : Mark := ⟨k.index, k.line, k.column⟩

/-- The state of the scanner. -/
structure Scanner where
  src : Array Char
  pos : Nat := 0
  line : Nat := 0
  column : Nat := 0
  flowLevel : Nat := 0
  indent : Int := -1
  indents : List Int := []
  allowSimpleKey : Bool := true
  simpleKeys : List (Nat × SimpleKey) := []
  tokens : Array Lexeme := #[]
  done : Bool := false

/-- Whether a character breaks a line. -/
def isBreak (c : Char) : Bool :=
  c == '\r' || c == '\n' || c == '\x85' || c == '\u2028' || c == '\u2029'

/-- Whether a character breaks a line or ends the text. -/
def isBreakOrEnd (c : Char) : Bool := c == '\x00' || isBreak c

/-- Whether a character is blank, breaks a line or ends the text. -/
def isBlankOrEnd (c : Char) : Bool := c == ' ' || c == '\t' || isBreakOrEnd c

/-- Whether a character may be part of an anchor, a directive name or a tag handle. -/
def isWordChar (c : Char) : Bool :=
  decide ('0' ≤ c ∧ c ≤ '9') || decide ('A' ≤ c ∧ c ≤ 'Z') || decide ('a' ≤ c ∧ c ≤ 'z') ||
    c == '-' || c == '_'

/-- Whether a character may be part of a tag written as a URI. -/
def isUriChar (c : Char) : Bool :=
  isWordChar c || ";/?:@&=+$,.!~*'()[]%".toList.contains c

/-- Whether a character is a hexadecimal digit. -/
def isHexDigit (c : Char) : Bool :=
  decide ('0' ≤ c ∧ c ≤ '9') || decide ('a' ≤ c ∧ c ≤ 'f') || decide ('A' ≤ c ∧ c ≤ 'F')

/-- The value of a hexadecimal digit. -/
def hexDigitValue (c : Char) : Nat :=
  if '0' ≤ c ∧ c ≤ '9' then c.toNat - 48
  else if 'a' ≤ c ∧ c ≤ 'f' then c.toNat - 87
  else c.toNat - 55

/-- Whether a character may stand in a YAML text: tab, line feed, carriage return, the printable
ASCII characters, next line, and the code points from `0xA0` on other than surrogates and the
two last of the basic plane. -/
def printable (c : Char) : Bool :=
  let n := c.toNat
  n == 9 || n == 10 || n == 13 || (0x20 ≤ n && n ≤ 0x7E) || n == 0x85 ||
    (0xA0 ≤ n && n ≤ 0xD7FF) || (0xE000 ≤ n && n ≤ 0xFFFD) || 0x10000 ≤ n

namespace Scanner

/-- The character `k` places ahead. -/
def peekAt (s : Scanner) (k : Nat) : Char := s.src.getD (s.pos + k) '\x00'

/-- The next character. -/
def peek (s : Scanner) : Char := s.peekAt 0

/-- The next `n` characters. -/
def ahead (s : Scanner) (n : Nat) : List Char := (List.range n).map s.peekAt

/-- The place the scanner is at. -/
def mark (s : Scanner) : Mark := ⟨s.pos, s.line, s.column⟩

/-- A bound on the rounds of any loop: the characters left, and one. -/
def fuel (s : Scanner) : Nat := s.src.size - s.pos + 1

/-- Moves past one character, keeping line and column. -/
def step (s : Scanner) : Scanner :=
  if s.pos < s.src.size then
    let c := s.peek
    let s' := { s with pos := s.pos + 1 }
    if c == '\n' || c == '\x85' || c == '\u2028' || c == '\u2029' || (c == '\r' && s'.peek != '\n')
    then { s' with line := s.line + 1, column := 0 }
    else if c != '\uFEFF' then { s' with column := s.column + 1 }
    else s'
  else s

/-- Moves past `n` characters. -/
def forward (s : Scanner) : Nat → Scanner
  | 0 => s
  | n + 1 => s.step.forward n

/-- Adds a token at the end, with the places where it starts and ends. -/
def push (s : Scanner) (t : Token) (start stop : Mark) : Scanner :=
  { s with tokens := s.tokens.push ⟨t, start, stop⟩ }

/-- Adds a token that takes no room, at the current place. -/
def pushHere (s : Scanner) (t : Token) : Scanner := s.push t s.mark s.mark

/-- Moves past the characters that satisfy `p`. -/
def skipWhile (p : Char → Bool) : Nat → Scanner → Scanner
  | 0, s => s
  | n + 1, s => if s.pos < s.src.size && p s.peek then skipWhile p n s.step else s

/-- The first offset from `k` on whose character fails `p`. -/
def spanFrom (s : Scanner) (p : Char → Bool) : Nat → Nat → Nat
  | 0, k => k
  | n + 1, k => if s.pos + k < s.src.size && p (s.peekAt k) then s.spanFrom p n (k + 1) else k

/-- Reads a line break: a carriage return and line feed, or a lone one of them, or next line,
give a line feed; the line and paragraph separators give themselves. -/
def lineBreak (s : Scanner) : Option Char × Scanner :=
  let c := s.peek
  if c == '\r' || c == '\n' || c == '\x85' then
    if c == '\r' && s.peekAt 1 == '\n' then (some '\n', s.forward 2) else (some '\n', s.step)
  else if c == '\u2028' || c == '\u2029' then (some c, s.step)
  else (none, s)

/-- Whether a document marker `---` or `...` starts here. -/
def atDocumentMarker (s : Scanner) : Bool :=
  (s.ahead 3 == ['-', '-', '-'] || s.ahead 3 == ['.', '.', '.']) && isBlankOrEnd (s.peekAt 3)

/-- Skips spaces, comments and line breaks up to the next token, and a byte order mark at the
start of the text; a line break in block context allows a simple key again. -/
def toNextToken : Nat → Scanner → Scanner
  | 0, s => s
  | n + 1, s =>
      let s := if s.pos == 0 && s.peek == '\uFEFF' then s.step else s
      let s := s.skipWhile (· == ' ') s.fuel
      let s := if s.peek == '#' then s.skipWhile (fun c => !isBreakOrEnd c) s.fuel else s
      match s.lineBreak with
      | (some _, s) => toNextToken n (if s.flowLevel == 0 then { s with allowSimpleKey := true } else s)
      | (none, s) => s

/-- The failure of a simple key that must be a key but has no `:` after it. -/
def keyMissing {α : Type} (k : SimpleKey) (m : Mark) : Except Stop α :=
  refuse (some "while scanning a simple key") (some k.mark) "could not find expected ':'" m

/-- Drops the possible simple keys that can no longer be keys: those on an earlier line or too far
back. Fails when one of them had to be a key. -/
def staleKeys (s : Scanner) : Except Stop Scanner :=
  let stale (k : SimpleKey) : Bool := k.line != s.line || s.pos - k.index > 1024
  match s.simpleKeys.find? fun (_, k) => stale k && k.required with
  | some (_, k) => keyMissing k s.mark
  | none => .ok { s with simpleKeys := s.simpleKeys.filter fun (_, k) => !stale k }

/-- Forgets the possible simple key of the current flow level; fails when it had to be a key. -/
def removeKey (s : Scanner) : Except Stop Scanner :=
  match s.simpleKeys.lookup s.flowLevel with
  | some k => if k.required then keyMissing k s.mark
      else .ok { s with simpleKeys := s.simpleKeys.filter (·.1 != s.flowLevel) }
  | none => .ok s

/-- Remembers that a simple key could begin at the next token. -/
def saveKey (s : Scanner) : Except Stop Scanner :=
  if s.allowSimpleKey then do
    let required := s.flowLevel == 0 && s.indent == (s.column : Int)
    let s ← s.removeKey
    let k : SimpleKey := ⟨s.tokens.size, required, s.pos, s.line, s.column⟩
    pure { s with simpleKeys := (s.flowLevel, k) :: s.simpleKeys }
  else .ok s

/-- Closes the block collections indented further than `column`. -/
def unwind (column : Int) : Nat → Scanner → Scanner
  | 0, s => s
  | n + 1, s =>
      if s.flowLevel == 0 && s.indent > column then
        match s.indents with
        | i :: rest => unwind column n ({ s with indent := i, indents := rest }.pushHere .blockEnd)
        | [] => s
      else s

/-- Opens a block collection at `column` when it is further right than the current one. -/
def addIndent (s : Scanner) (column : Int) : Option Scanner :=
  if s.indent < column then some { s with indents := s.indent :: s.indents, indent := column }
  else none

/-- Inserts a token that takes no room at a place, at a position of the token list, or at its end
for a position past it. -/
def insertToken (s : Scanner) (i : Nat) (t : Token) (m : Mark) : Scanner :=
  let l : Lexeme := ⟨t, m, m⟩
  { s with tokens := if i ≤ s.tokens.size then s.tokens.insertIdxIfInBounds i l else s.tokens.push l }

end Scanner

end Templating.Yaml
