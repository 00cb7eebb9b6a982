import Templating.Data.Value

/-!
# Hashes of numbers and the order of a hash set

A set lists its members in the order of the slots of its hash table, so two sets of the same
members built in different ways can list them differently. This module computes that order for
a set made from the keys of a mapping, the way YAML's `!!set` is made.

The hash of a number is its value modulo the prime `hashModulus`, `2 ^ 61 - 1`, with its sign:
equal numbers hash alike whatever their kind, so `1`, `1.0` and `true` do. A double is the
rational `p / 2 ^ k`, and as `2 ^ 61` is one modulo the prime, dividing by `2 ^ k` is multiplying
by `2 ^ (61 - k mod 61)`. The infinities hash to `314159` and its negation, and `-1`, which is no
hash, is taken as `-2`. Other members (texts, timestamps, null, a double that is not a number)
hash by their identity or a random key, which no run can know; they are given hash zero.

A table has a power of two of slots, at least eight. A member goes to the first empty slot on its
hash's probe path: the slot the hash's low bits name and the nine after it, when those lie within
the table, then the slot `5 i + 1 + perturb`, `perturb` being the hash shifted right five more bits
at each step. When three fifths of the slots are filled, the table grows to the least power of two
above four times its members (twice, past fifty thousand) and takes them again in slot order.
Filling a set from a mapping first grows the table once, to hold twice the mapping's size, when it
would be three fifths full.
-/

namespace Templating

/-- The prime that number hashes are taken modulo. -/
def hashModulus : Nat := Nat.pow 2 61 - 1

/-- The hash of the rational number `p / 2 ^ k`. -/
def ratioHash (p : Int) (k : Nat) : Int :=
  let r := p.natAbs % hashModulus * Nat.pow 2 ((61 - k % 61) % 61) % hashModulus
  let h : Int := if p < 0 then -(r : Int) else r
  if h == -1 then -2 else h

/-- The hash of a number; none for a value whose hash no run can know. -/
def Value.hash? (h : Heap) (v : Value) : Option Int :=
  match v.deref h with
  | .bool b => some (if b then 1 else 0)
  | .int n => some (ratioHash n 0)
  | .float x =>
      if x.isNaN then none
      else if x.isInf then some (if x > 0 then 314159 else -314159)
      else (Num.ratio? x).map fun (p, q) => ratioHash p q.log2
  | _ => none

/-- A hash as the unsigned word it is read as on the probe path. -/
def hashWord (h : Int) : Nat := if h < 0 then ((Nat.pow 2 64 : Int) + h).toNat else h.toNat

/-- The slots of a hash table: empty, or the place of a member with its hash word. -/
abbrev Slots := Array (Option (Nat × Nat))

/-- The first empty slot on a hash's probe path, from slot `i` with the shifted hash `perturb`;
`fuel` bounds the steps. -/
def freeSlotFrom (slots : Slots) (hash : Nat) : Nat → Nat → Nat → Nat
  | 0, i, _ => i
  | fuel + 1, i, perturb =>
      let mask := slots.size - 1
      let span := if i + 9 ≤ mask then 10 else 1
      match (List.range span).find? fun j => (slots.getD (i + j) none).isNone with
      | some j => i + j
      | none =>
          let perturb := perturb / 32
          freeSlotFrom slots hash fuel ((i * 5 + 1 + perturb) % (mask + 1)) perturb

/-- The first empty slot on a hash's probe path. -/
def freeSlot (slots : Slots) (hash : Nat) : Nat :=
  freeSlotFrom slots hash (slots.size + 16) (hash % slots.size) hash

/-- The least power of two, at least eight, above `n`. -/
def tableSize (n : Nat) : Nat := Nat.pow 2 (max 3 (n.log2 + 1))

/-- A table of a size holding the members of some slots, taken again in slot order. -/
def regrow (slots : Slots) (size : Nat) : Slots :=
  slots.foldl (fun acc s => match s with
    | some (m, hash) => acc.setIfInBounds (freeSlot acc hash) (some (m, hash))
    | none => acc) (Array.replicate size none)

/-- Adds a member to a table of `fill` members, growing it when it is three fifths full. -/
def addMember (t : Slots × Nat) (m : Nat) (hash : Nat) : Slots × Nat :=
  let slots := t.1.setIfInBounds (freeSlot t.1 hash) (some (m, hash))
  let fill := t.2 + 1
  if fill * 5 < (slots.size - 1) * 3 then (slots, fill)
  else (regrow slots (tableSize (if fill > 50000 then fill * 2 else fill * 4)), fill)

/-- The order in which a set made from the keys of a mapping lists them: the places of the keys
in their slots' order. -/
def setSlotOrder (hashes : List Int) : List Nat :=
  let n := hashes.length
  let start : Slots := Array.replicate (if n * 5 ≥ 7 * 3 then tableSize (n * 2) else 8) none
  let (slots, _) := hashes.zipIdx.foldl (fun t (hv, m) => addMember t m (hashWord hv)) (start, 0)
  slots.toList.filterMap (·.map (·.1))

/-- The members of a set made from the keys of a mapping, in the order the set lists them. -/
def Value.setOrder (h : Heap) (keys : List Value) : List Value :=
  (setSlotOrder (keys.map fun k => (k.hash? h).getD 0)).filterMap (keys[·]?)

end Templating
