import Templating.Decimal.Shortest

/-!
# Writing doubles as text

A `Notation` fixes the decisions a text format makes on top of the shortest digits: which
decimal points are written positionally, how the exponent is written, and the words for the
values that are not finite. Positional text keeps a `.0` on integral values; exponent text
writes `d.ddd`, `e`, a sign and at least two digits.

Three notations are used: `Notation.display` for a value shown as text, `Notation.json` for JSON
numbers, and `Notation.yaml` for YAML scalars, which also writes `1.0e+20` rather than `1e+20`.
-/

namespace Templating.Decimal

/-- The choices a format makes when writing a double. -/
structure Notation where
  /-- Positional text is written when `lowPoint < point ≤ highPoint`. -/
  lowPoint : Int
  highPoint : Int
  /-- The least number of digits of an exponent. -/
  expDigits : Nat
  /-- Whether a one-digit mantissa before an exponent gets `.0`. -/
  pointInMantissa : Bool
  nan : String
  inf : String
  deriving Repr

namespace Notation

/-- Values shown as text: positional from `0.0001` up to `10 ^ 16`, exponent digits at least two. -/
def display : Notation := ⟨-4, 16, 2, false, "nan", "inf"⟩

/-- JSON numbers: as `display`, with `NaN` and `Infinity` for the values that are not finite. -/
def json : Notation := ⟨-4, 16, 2, false, "NaN", "Infinity"⟩

/-- YAML scalars: as `display`, a point in every mantissa, and `.nan` and `.inf`. -/
def yaml : Notation := ⟨-4, 16, 2, true, ".nan", ".inf"⟩

end Notation

/-- The decimal digits of a natural number. -/
def digitsOf (n : Nat) : String := String.ofList (Nat.toDigits 10 n)

/-- A list of `n` zeros. -/
def zeros (n : Nat) : List Char := List.replicate n '0'

/-- Positional text of `0.d₁d₂… * 10 ^ point`. -/
def positional (ds : List Char) (point : Int) : List Char :=
  if point ≤ 0 then '0' :: '.' :: zeros (-point).toNat ++ ds
  else if point.toNat < ds.length then ds.take point.toNat ++ '.' :: ds.drop point.toNat
  else ds ++ zeros (point.toNat - ds.length) ++ ['.', '0']

/-- Exponent text of `0.d₁d₂… * 10 ^ point`. -/
def scientific (n : Notation) (ds : List Char) (point : Int) : List Char :=
  let e := point - 1
  let mant := match ds with
    | [d] => if n.pointInMantissa then [d, '.', '0'] else [d]
    | d :: r => d :: '.' :: r
    | [] => ['0']
  let ed := Nat.toDigits 10 e.natAbs
  mant ++ 'e' :: (if e < 0 then '-' else '+') :: zeros (n.expDigits - ed.length) ++ ed

/-- The text of a positive finite double. -/
def Notation.magnitude (n : Notation) (b : Binary) : List Char :=
  if b.mantissa = 0 then ['0', '.', '0']
  else
    let s := shortest b
    if n.lowPoint < s.point ∧ s.point ≤ n.highPoint then positional s.digits s.point
    else scientific n s.digits s.point

/-- The text of a double. -/
def Notation.write (n : Notation) (x : Float) : String :=
  let bits := x.toBits.toNat
  let negative := Nat.pow 2 63 ≤ bits
  let mag := bits % Nat.pow 2 63
  let sign := if negative then "-" else ""
  if mag / Nat.pow 2 52 = Nat.pow 2 11 - 1 then
    if mag % Nat.pow 2 52 = 0 then sign ++ n.inf else n.nan
  else sign ++ String.ofList (n.magnitude (Binary.ofBits mag))

/-- The double with the given sign and magnitude, infinite when the magnitude is too large. -/
def toFloat (negative : Bool) (b : Option Binary) : Float :=
  let mag := match b with
    | some b => b.toBits
    | none => (Nat.pow 2 11 - 1) * Nat.pow 2 52
  Float.ofBits (UInt64.ofNat (if negative then mag + Nat.pow 2 63 else mag))

/-- The double nearest to `± c * 10 ^ q`. Beyond `10 ^ 400` every decimal is infinite and below
`10 ^ -400` every decimal is zero, so the exponent is not carried out there. -/
def ofDecimal (negative : Bool) (c : Nat) (q : Int) : Float :=
  let size := q + (Nat.toDigits 10 c).length
  if c = 0 ∨ size < -400 then toFloat negative (some ⟨0, minExp⟩)
  else if size > 400 then toFloat negative none
  else
    let r := scaleTen c 1 q
    toFloat negative (Binary.nearest r.1 r.2)

end Templating.Decimal
