/-!
# The Mersenne Twister

MT19937 with its standard seeding: a seed is a list of 32-bit words, mixed into a state seeded
from `19650218`, and an integer seed is the list of 32-bit words of its absolute value, least
significant first, with one zero word for zero. `Twister.below` draws a number below a bound by
taking as many top bits of a word as the bound needs and drawing again while the number is too
large.

## Implementation notes

The state is an array of 624 words and the position of the next word to temper. Every update
goes through `Array.setIfInBounds` and every read through `Array.getD`, on positions that are
always in bounds.
-/

namespace Templating

/-- The state of a Mersenne Twister: 624 words and the position of the next one. -/
structure Twister where
  words : Array UInt32
  pos : Nat

namespace Twister

/-- The number of words of the state. -/
def size : Nat := 624

/-- The offset of the word mixed into each new word. -/
def shift : Nat := 397

/-- The word at a position. -/
def at_ (a : Array UInt32) (i : Nat) : UInt32 := a.getD i 0

/-- The state seeded from one word. -/
def ofWord (s : UInt32) : Array UInt32 :=
  (List.range (size - 1)).foldl
    (fun a i =>
      let p := at_ a i
      a.push ((1812433253 : UInt32) * (p ^^^ (p >>> 30)) + (i + 1).toUInt32))
    #[s]

/-- One step of mixing a seed word into the state. -/
def mixKey (key : Array UInt32) (st : Array UInt32 × Nat × Nat) : Array UInt32 × Nat × Nat :=
  let (a, i, j) := st
  let p := at_ a (i - 1)
  let v := (at_ a i ^^^ ((p ^^^ (p >>> 30)) * (1664525 : UInt32))) + at_ key j + j.toUInt32
  let a := a.setIfInBounds i v
  let i := i + 1
  let a := if i ≥ size then a.setIfInBounds 0 (at_ a (size - 1)) else a
  let i := if i ≥ size then 1 else i
  let j := if j + 1 ≥ key.size then 0 else j + 1
  (a, i, j)

/-- One step of the final mixing of the state. -/
def mixOut (st : Array UInt32 × Nat) : Array UInt32 × Nat :=
  let (a, i) := st
  let p := at_ a (i - 1)
  let v := (at_ a i ^^^ ((p ^^^ (p >>> 30)) * (1566083941 : UInt32))) - i.toUInt32
  let a := a.setIfInBounds i v
  let i := i + 1
  let a := if i ≥ size then a.setIfInBounds 0 (at_ a (size - 1)) else a
  (a, if i ≥ size then 1 else i)

/-- The state seeded from a list of words. -/
def ofKey (key : Array UInt32) : Twister :=
  let a := ofWord 19650218
  let (a, i, _) := (List.range (max size key.size)).foldl (fun st _ => mixKey key st) (a, 1, 0)
  let (a, _) := (List.range (size - 1)).foldl (fun st _ => mixOut st) (a, i)
  ⟨a.setIfInBounds 0 0x80000000, size⟩

/-- The 32-bit words of a natural number, least significant first, at least one. -/
def wordsOf (n : Nat) : Array UInt32 :=
  let rec go : Nat → Nat → List UInt32
    | 0, _ => []
    | fuel + 1, m => if m = 0 then [] else (m % Nat.pow 2 32).toUInt32 :: go fuel (m / Nat.pow 2 32)
  match go (n.log2 / 32 + 2) n with
  | [] => #[0]
  | ws => ws.toArray

/-- The state seeded from an integer. -/
def ofSeed (seed : Int) : Twister := ofKey (wordsOf seed.natAbs)

/-- The next word of a state, before tempering. -/
def regenerate (a : Array UInt32) : Array UInt32 :=
  let mix (a : Array UInt32) (k : Nat) (other : Nat) : Array UInt32 :=
    let y := (at_ a k &&& 0x80000000) ||| (at_ a ((k + 1) % size) &&& 0x7fffffff)
    let mag : UInt32 := if y &&& 1 = 1 then 0x9908b0df else 0
    a.setIfInBounds k (at_ a other ^^^ (y >>> 1) ^^^ mag)
  (List.range size).foldl (fun a k => mix a k ((k + shift) % size)) a

/-- The next 32-bit output of the generator. -/
def next (t : Twister) : UInt32 × Twister :=
  let t := if t.pos ≥ size then ⟨regenerate t.words, 0⟩ else t
  let y := at_ t.words t.pos
  let y := y ^^^ (y >>> 11)
  let y := y ^^^ ((y <<< 7) &&& 0x9d2c5680)
  let y := y ^^^ ((y <<< 15) &&& 0xefc60000)
  let y := y ^^^ (y >>> 18)
  (y, ⟨t.words, t.pos + 1⟩)

/-- The top `k` bits of the next output, for `k ≤ 32`. -/
def bits (k : Nat) (t : Twister) : Nat × Twister :=
  let (w, t) := t.next
  (w.toNat / Nat.pow 2 (32 - k), t)

/-- A number below `n`, drawing at most `fuel` times. -/
def belowFuel (n : Nat) : Nat → Twister → Nat × Twister
  | 0, t => (0, t)
  | fuel + 1, t =>
      let (r, t) := bits (Nat.log2 n + 1) t
      if r < n then (r, t) else belowFuel n fuel t

/-- A number below `n`, for `0 < n < 2 ^ 32`: the top bits of the next outputs, the first that is
below `n`. -/
def below (n : Nat) (t : Twister) : Nat × Twister := belowFuel n 10000 t

end Twister

end Templating
