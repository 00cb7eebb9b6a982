import Templating.Text.Chars

/-!
# Reading integers

An integer text in a base from 2 to 36 is, after blanks, an optional sign, the base's prefix
`0x`, `0o` or `0b` when the base is 16, 8 or 2, and digits: decimal digits of any script stand for
their values and ASCII letters for the values from ten up. A single underscore may stand between
two digits and after the prefix. Blanks may follow.

Outside the bases that are powers of two, a text of more than 4300 digits is refused as too
long, whatever follows the digits.
-/

namespace Templating.Text

/-- Why a text is no integer: it has another form, or more digits than may be read. -/
inductive IntFault where
  | invalid
  | tooManyDigits (count : Nat)
  deriving DecidableEq, Repr

/-- A character as integer reading sees it: ASCII as itself, other blanks as a space, other
decimal digits as the ASCII digit of their value, and anything else as `?`. -/
def asciiForm (c : Char) : Char :=
  if c.toNat < 127 then c
  else if isBlank c then ' '
  else match digitValue? c with
    | some d => Char.ofNat (48 + d)
    | none => '?'

/-- Whether a character is an ASCII blank: space, tab, line feed, vertical tab, form feed or
carriage return. -/
def isAsciiSpace (c : Char) : Bool := c == ' ' || ('\t' ≤ c && c ≤ '\r')

/-- The value of an ASCII character as a digit: `0` to `9`, then the letters from ten up; 37 for
anything else. -/
def digitOf (c : Char) : Nat :=
  if '0' ≤ c ∧ c ≤ '9' then c.toNat - 48
  else if 'a' ≤ c ∧ c ≤ 'z' then c.toNat - 87
  else if 'A' ≤ c ∧ c ≤ 'Z' then c.toNat - 55
  else 37

/-- Whether a run of digits and underscores has two underscores in a row. -/
def doubleUnderscore : List Char → Bool
  | '_' :: '_' :: _ => true
  | _ :: rest => doubleUnderscore rest
  | [] => false

/-- The prefix a base may be written with, after the `0`. -/
def prefixOf (base : Nat) (c : Char) : Bool :=
  (base == 16 && (c == 'x' || c == 'X')) || (base == 8 && (c == 'o' || c == 'O')) ||
    (base == 2 && (c == 'b' || c == 'B'))

/-- The most decimal digits an integer text may have. -/
def readDigitLimit : Nat := 4300

/-- The integer a text stands for in a base. -/
def readIntIn (base : Nat) (s : String) : Except IntFault Int := do
  let cs := (s.toList.map asciiForm).dropWhile isAsciiSpace
  let (negative, cs) := match cs with
    | '-' :: r => (true, r)
    | '+' :: r => (false, r)
    | r => (false, r)
  let cs := match cs with
    | '0' :: p :: r => if prefixOf base p then (match r with
        | '_' :: r' => r'
        | r => r) else cs
    | _ => cs
  if cs.head? == some '_' then throw .invalid
  let span := cs.takeWhile fun c => digitOf c < base || c == '_'
  let rest := cs.drop span.length
  if doubleUnderscore span || span.getLast? == some '_' then throw .invalid
  let ds := (span.filter (· != '_')).map digitOf
  if !([2, 4, 8, 16, 32].contains base) && ds.length > readDigitLimit then
    throw (.tooManyDigits ds.length)
  if ds.isEmpty || !rest.all isAsciiSpace then throw .invalid
  let n := ds.foldl (fun n d => base * n + d) 0
  pure (if negative then -(n : Int) else n)

/-- The integer a decimal text stands for. -/
def readInteger? (s : String) : Option Int := (readIntIn 10 s).toOption

end Templating.Text
