/-!
# Shortest decimal text of a double

A positive finite double is `mantissa * 2 ^ exp`. `Binary.nearest` rounds a positive ratio of
naturals to the nearest double, a tie going to the even mantissa; it is the one rule both for
reading decimal text and for deciding which decimals read back as a given double.

`shortest` writes a double with the fewest significant digits that read back as it. It tries
the grids of one, two, … seventeen digits below the double's decimal scale; on each it tests the
two grid points around the double. The first grid with a hit wins, of two hits the nearer one,
and an exact tie goes to the even digit.

## Implementation notes

All arithmetic is on `Nat` and `Int`, so nothing here depends on the floating point unit.
Seventeen digits always suffice for a double, so the search of `shortest` always hits.
-/

namespace Templating.Decimal

/-- A positive finite double: the value is `mantissa * 2 ^ exp`, the mantissa below `2 ^ 53`
and at least `2 ^ 52` unless the exponent is the least one. -/
structure Binary where
  mantissa : Nat
  exp : Int
  deriving DecidableEq, Repr

/-- The least binary exponent, that of the subnormal doubles. -/
def minExp : Int := -1074

/-- The greatest binary exponent of a finite double. -/
def maxExp : Int := 971

/-- `num / den * 2 ^ e` as a ratio of naturals. -/
def scaleTwo (num den : Nat) (e : Int) : Nat × Nat :=
  if 0 ≤ e then (num * Nat.pow 2 e.toNat, den) else (num, den * Nat.pow 2 (-e).toNat)

/-- `num / den * 10 ^ e` as a ratio of naturals. -/
def scaleTen (num den : Nat) (e : Int) : Nat × Nat :=
  if 0 ≤ e then (num * Nat.pow 10 e.toNat, den) else (num, den * Nat.pow 10 (-e).toNat)

/-- Whether `a / b < c / d`. -/
def ratioLt (a b c d : Nat) : Bool := a * d < c * b

namespace Binary

/-- The double nearest to `num / den`, ties to the even mantissa; `none` when it is too large
for a double. Meant for `0 < num` and `0 < den`. -/
def nearest (num den : Nat) : Option Binary :=
  let l : Int := (num.log2 : Int) - den.log2
  -- the binary scale of `num / den` is `l` or `l - 1`
  let top := scaleTwo 1 1 l
  let fl := if ratioLt num den top.1 top.2 then l - 1 else l
  let e := max (fl - 52) minExp
  let r := scaleTwo num den (-e)
  let q := r.1 / r.2
  let rem := r.1 % r.2
  let m := if 2 * rem > r.2 ∨ (2 * rem = r.2 ∧ q % 2 = 1) then q + 1 else q
  let me : Nat × Int := if m = Nat.pow 2 53 then (Nat.pow 2 52, e + 1) else (m, e)
  if me.2 > maxExp then none else some ⟨me.1, me.2⟩

/-- The double's value as a ratio of naturals. -/
def ratio (b : Binary) : Nat × Nat := scaleTwo b.mantissa 1 b.exp

/-- Reads the magnitude bits of a finite double, its sign bit clear. -/
def ofBits (bits : Nat) : Binary :=
  let e : Nat := (bits / Nat.pow 2 52) % Nat.pow 2 11
  let f : Nat := bits % Nat.pow 2 52
  if e = 0 then ⟨f, minExp⟩ else ⟨f + Nat.pow 2 52, (e : Int) - 1075⟩

/-- The magnitude bits of the double, sign bit clear. -/
def toBits (b : Binary) : Nat :=
  if Nat.pow 2 52 ≤ b.mantissa then (b.exp + 1075).toNat * Nat.pow 2 52 + (b.mantissa - Nat.pow 2 52)
  else b.mantissa

end Binary

/-- The least `k` with `num / den < 10 ^ k`. Meant for `0 < num` and `0 < den`. -/
def decimalScale (num den : Nat) : Int :=
  let k : Int := ((Nat.toDigits 10 num).length : Int) - (Nat.toDigits 10 den).length
  -- `10 ^ (k - 1) < num / den < 10 ^ (k + 1)`
  let t := scaleTen 1 1 k
  if ratioLt num den t.1 t.2 then k else k + 1

/-- Significant digits with the position of the decimal point: the value is `0.d₁d₂… * 10 ^ point`. -/
structure Shortest where
  digits : List Char
  point : Int
  deriving DecidableEq, Repr

/-- Whether the decimal `c * 10 ^ q` reads back as the double. -/
def readsBack (b : Binary) (c : Nat) (q : Int) : Bool :=
  c != 0 &&
    let r := scaleTen c 1 q
    Binary.nearest r.1 r.2 == some b

/-- Drops the zeros that end a digit list, keeping at least one digit. -/
def stripZeros (ds : List Char) : List Char :=
  match (ds.reverse.dropWhile (· == '0')).reverse with
  | [] => ['0']
  | r => r

/-- The pick on the grid of `n` digits below the scale `k`: the grid point that reads back, the
nearer of two, a tie going to the even one. -/
def onGrid (b : Binary) (k : Int) (n : Nat) : Option (Nat × Int) :=
  let q := k - n
  let x := b.ratio
  let g := scaleTen x.1 x.2 (-q)
  let c := g.1 / g.2
  let lo := readsBack b c q
  let hi := readsBack b (c + 1) q
  if lo && hi then
    -- compare `2x` with `(2c + 1) * 10 ^ q`
    let twice := 2 * g.1
    let mid := (2 * c + 1) * g.2
    if twice < mid then some (c, q)
    else if twice > mid then some (c + 1, q)
    else if c % 2 = 0 then some (c, q) else some (c + 1, q)
  else if lo then some (c, q)
  else if hi then some (c + 1, q)
  else none

/-- Tries the grids of `n`, `n + 1`, … digits, at most `fuel` of them. -/
def search (b : Binary) (k : Int) : Nat → Nat → Nat × Int
  | 0, n => (b.ratio.1 / b.ratio.2, k - n)
  | fuel + 1, n =>
      match onGrid b k n with
      | some hit => hit
      | none => search b k fuel (n + 1)

/-- The fewest significant digits that read back as the double, nearest of those. -/
def shortest (b : Binary) : Shortest :=
  let x := b.ratio
  let k := decimalScale x.1 x.2
  let hit := search b k 17 1
  let ds := Nat.toDigits 10 hit.1
  ⟨stripZeros ds, hit.2 + ds.length⟩

end Templating.Decimal
