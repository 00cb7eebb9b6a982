import Templating.Text.Integer
import Templating.Decimal.Notation

/-!
# Reading doubles

A double text is, after blanks, an optional sign and then `inf`, `infinity` or `nan` in any
case, or a decimal: digits of any script with an optional point and an optional exponent, at
least one digit before or after the point, the exponent an `e` or `E`, an optional sign and
digits. Blanks may follow. An underscore may stand between two digits.

The decimal is rounded to the nearest double.
-/

namespace Templating.Text

/-- Whether the underscores of a text each stand between two digits. -/
def underscoresBetweenDigits : Option Char → List Char → Bool
  | _, [] => true
  | prev, '_' :: rest =>
      (match prev with
       | some p => '0' ≤ p && p ≤ '9'
       | none => false) &&
      (match rest with
       | d :: _ => '0' ≤ d && d ≤ '9'
       | [] => false) &&
      underscoresBetweenDigits (some '_') rest
  | _, c :: rest => underscoresBetweenDigits (some c) rest

/-- Splits off the ASCII digits at the start of a text. -/
def asciiDigits (cs : List Char) : List Char × List Char :=
  (cs.takeWhile fun c => '0' ≤ c ∧ c ≤ '9', cs.dropWhile fun c => '0' ≤ c ∧ c ≤ '9')

/-- The value of ASCII decimal digits. -/
def asciiValue (ds : List Char) : Nat := ds.foldl (fun n d => 10 * n + (d.toNat - 48)) 0

/-- The double a decimal without its sign stands for. -/
def decimalOf (negative : Bool) (cs : List Char) : Option Float := do
  let (whole, r) := asciiDigits cs
  let (frac, r) := match r with
    | '.' :: r => asciiDigits r
    | r => ([], r)
  if whole.isEmpty && frac.isEmpty then none
  let e : Int ← match r with
    | [] => some 0
    | e :: r =>
        if e != 'e' && e != 'E' then none
        else
          let (neg, r) := match r with
            | '-' :: r => (true, r)
            | '+' :: r => (false, r)
            | r => (false, r)
          let (ds, r) := asciiDigits r
          if ds.isEmpty || !r.isEmpty then none
          else some (if neg then -(asciiValue ds : Int) else asciiValue ds)
  pure (Decimal.ofDecimal negative (asciiValue (whole ++ frac)) (e - frac.length))

/-- The double a text stands for. -/
def readFloat? (s : String) : Option Float :=
  let cs := s.toList.map asciiForm
  let cs := ((cs.dropWhile isAsciiSpace).reverse.dropWhile isAsciiSpace).reverse
  if !underscoresBetweenDigits none cs then none
  else
    let cs := cs.filter (· != '_')
    let (negative, r) := match cs with
      | '-' :: r => (true, r)
      | '+' :: r => (false, r)
      | r => (false, r)
    let low := String.ofList (r.map Char.toLower)
    if low == "inf" || low == "infinity" then
      some (if negative then -1.0 / 0.0 else 1.0 / 0.0)
    else if low == "nan" then some (0.0 / 0.0)
    else decimalOf negative r

end Templating.Text
