/-!
# Classes of characters, line ends and tables written as text

A character class is given as a sorted array of disjoint closed ranges of code points.
`Ranges.contains` finds the last range that starts at or below a code point by halving the
search interval, and checks that the range reaches it.

The decimal digits of every script are Unicode category Nd as of Unicode 14.0. They come in
blocks of ten, each block running from its zero to its nine, so a digit's value is its distance
from the start of its block, modulo ten.

The blank characters, which text trimming removes, are the ASCII tab, line feed, vertical tab,
form feed and carriage return, the file, group, record and unit separators, the space, next
line, no-break space, the ogham space mark, the spaces from en quad to hair space, line and
paragraph separators, the narrow no-break space, the medium mathematical space and the
ideographic space.

Text read from a file has its line ends made uniform: a carriage return, alone or before a line
feed, becomes one line feed.

Large generated tables are kept as text, which is shorter than terms of lists and quicker to
build: a table is rows separated by `|`, and a row is numbers in capital hexadecimal separated by
single blanks. `rowsOf` reads such a table back.
-/

namespace Templating.Text

/-! ## Tables of code point ranges -/

/-- Sorted, disjoint, closed ranges of code points. -/
abbrev Ranges := Array (Nat × Nat)

namespace Ranges

/-- The number of ranges among `lo … hi - 1` that start at or below `n`, plus `lo`, given that
the ranges before `lo` all do and those from `hi` on none do. -/
def countStarts (rs : Ranges) (n : Nat) (lo hi : Nat) : Nat :=
  if h : lo < hi then
    let mid := lo + (hi - lo) / 2
    if (rs[mid]?.map (·.1)).getD 0 ≤ n then countStarts rs n (mid + 1) hi
    else countStarts rs n lo mid
  else lo
termination_by hi - lo

/-- Whether a range of the table holds the code point. -/
def contains (rs : Ranges) (n : Nat) : Bool :=
  match countStarts rs n 0 rs.size with
  | 0 => false
  | k + 1 => match rs[k]? with
    | some r => r.1 ≤ n && n ≤ r.2
    | none => false

end Ranges

/-! ## Decimal digits -/

/-- The blocks of decimal digits, as sorted closed ranges. -/
def decimalDigits : Ranges := #[
  (0x30, 0x39), (0x660, 0x669), (0x6F0, 0x6F9), (0x7C0, 0x7C9), (0x966, 0x96F), (0x9E6, 0x9EF),
  (0xA66, 0xA6F), (0xAE6, 0xAEF), (0xB66, 0xB6F), (0xBE6, 0xBEF), (0xC66, 0xC6F), (0xCE6, 0xCEF),
  (0xD66, 0xD6F), (0xDE6, 0xDEF), (0xE50, 0xE59), (0xED0, 0xED9), (0xF20, 0xF29), (0x1040, 0x1049),
  (0x1090, 0x1099), (0x17E0, 0x17E9), (0x1810, 0x1819), (0x1946, 0x194F), (0x19D0, 0x19D9), (0x1A80, 0x1A89),
  (0x1A90, 0x1A99), (0x1B50, 0x1B59), (0x1BB0, 0x1BB9), (0x1C40, 0x1C49), (0x1C50, 0x1C59), (0xA620, 0xA629),
  (0xA8D0, 0xA8D9), (0xA900, 0xA909), (0xA9D0, 0xA9D9), (0xA9F0, 0xA9F9), (0xAA50, 0xAA59), (0xABF0, 0xABF9),
  (0xFF10, 0xFF19), (0x104A0, 0x104A9), (0x10D30, 0x10D39), (0x11066, 0x1106F), (0x110F0, 0x110F9), (0x11136, 0x1113F),
  (0x111D0, 0x111D9), (0x112F0, 0x112F9), (0x11450, 0x11459), (0x114D0, 0x114D9), (0x11650, 0x11659), (0x116C0, 0x116C9),
  (0x11730, 0x11739), (0x118E0, 0x118E9), (0x11950, 0x11959), (0x11C50, 0x11C59), (0x11D50, 0x11D59), (0x11DA0, 0x11DA9),
  (0x16A60, 0x16A69), (0x16AC0, 0x16AC9), (0x16B50, 0x16B59), (0x1D7CE, 0x1D7FF), (0x1E140, 0x1E149), (0x1E2F0, 0x1E2F9),
  (0x1E950, 0x1E959), (0x1FBF0, 0x1FBF9)]

/-- The value of a decimal digit of any script. -/
def digitValue? (c : Char) : Option Nat :=
  let n := c.toNat
  decimalDigits.toList.findSome? fun r =>
    if r.1 ≤ n ∧ n ≤ r.2 then some ((n - r.1) % 10) else none

/-- Whether a character is a decimal digit of any script. -/
def isDecimal (c : Char) : Bool := decimalDigits.contains c.toNat

/-! ## Blank characters -/

/-- Whether a character is blank. -/
def isBlank (c : Char) : Bool :=
  let n := c.toNat
  (9 ≤ n && n ≤ 13) || (28 ≤ n && n ≤ 32) || n == 0x85 || n == 0xA0 || n == 0x1680 ||
    (0x2000 ≤ n && n ≤ 0x200A) || n == 0x2028 || n == 0x2029 || n == 0x202F || n == 0x205F ||
    n == 0x3000

/-- The text without the blank characters at either end. -/
def trim (s : String) : String :=
  String.ofList ((s.toList.dropWhile isBlank).reverse.dropWhile isBlank).reverse

/-- Every character that core counts as whitespace is blank. -/
theorem isBlank_of_isWhitespace (c : Char) (h : c.isWhitespace = true) : isBlank c = true := by
  simp only [Char.isWhitespace, Bool.or_eq_true, decide_eq_true_eq] at h
  simp only [isBlank]
  rcases h with ((h | h) | h) | h <;> simp [h]

/-! ## Line ends -/

/-- The characters with every carriage return, and every carriage return and line feed, made one
line feed. -/
def uniformLines : List Char → List Char
  | [] => []
  | '\r' :: '\n' :: rest => '\n' :: uniformLines rest
  | '\r' :: rest => '\n' :: uniformLines rest
  | c :: rest => c :: uniformLines rest

/-- A text with uniform line ends. -/
def withUniformLines (s : String) : String := String.ofList (uniformLines s.toList)

/-! ## Tables written as text -/

/-- The value of a digit of capital hexadecimal. -/
def upperHexDigit? (c : Char) : Option Nat :=
  if '0' ≤ c ∧ c ≤ '9' then some (c.toNat - 48)
  else if 'A' ≤ c ∧ c ≤ 'F' then some (c.toNat - 55)
  else none

/-- The number that digits of capital hexadecimal write. -/
def upperHexValue? (cs : List Char) : Option Nat :=
  cs.foldlM (fun n c => (upperHexDigit? c).map (16 * n + ·)) 0

/-- The numbers of a row. -/
def numbersOf (row : String) : List Nat :=
  (row.splitOn " ").map fun t => (upperHexValue? t.toList).getD 0

/-- The rows of a table. -/
def rowsOf (table : String) : List (List Nat) := (table.splitOn "|").map numbersOf

/-- A table of rows that are a code point and what it maps to. -/
def mapOf (table : String) : List (Nat × List Nat) :=
  (rowsOf table).map fun
    | n :: ns => (n, ns)
    | [] => (0, [])

/-- A table of rows of two numbers. -/
def pairsOf (table : String) : List (Nat × Nat) :=
  (rowsOf table).map fun row => (row.getD 0 0, row.getD 1 0)

/-- A table of rows of three numbers. -/
def triplesOf (table : String) : List (Nat × Nat × Nat) :=
  (rowsOf table).map fun row => (row.getD 0 0, row.getD 1 0, row.getD 2 0)

end Templating.Text
