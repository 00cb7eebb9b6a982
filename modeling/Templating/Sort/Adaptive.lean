/-!
# An adaptive stable merge sort

`Sort.adaptive?` sorts an array stably by a comparison that may fail, the way the sorting of
mappings by key is done when YAML is written. When the comparison is a total order any stable
sort gives the same result; when it is not, as when a key is a not-a-number that is neither
below nor above anything, the result depends on which items the sort compares, and this sort
compares exactly these:

* the array is cut, from the left, into runs: a run rises (each item not below the one before)
  or strictly falls, and a falling run is reversed;
* a run shorter than `minRun` items (all of them, for fewer than 64) is extended to that length
  by binary insertion, each item going after the items it is not below;
* each run gets a power, the depth at which its boundary with the next run splits the array in
  a halving of it; runs wait on a stack, and before a run is pushed, waiting runs of greater
  power are merged;
* two runs merge from the shorter side, first skipping the items already in place by galloping
  searches; one item is taken at a time until one run has won `minGallop` times in a row, then
  whole stretches are found by galloping, which goes on while a stretch has at least seven items;
  `minGallop` falls by one at each galloping step and rises by one on leaving;
* at the end the waiting runs are merged, the top two or, when the third is shorter than the top
  one, the two below the top.

A comparison that fails stops the sort: the result is none.
-/

namespace Templating.Sort

/-- How many wins in a row start galloping at first, and how long a stretch keeps it going. -/
def galloping : Nat := 7

/-- A run waiting to be merged: where it starts, its length, and its power. -/
structure Run where
  base : Nat
  len : Nat
  power : Nat
  deriving Inhabited

/-- The state of a sort: the items, the wins in a row that start galloping, the waiting runs. -/
structure State (α : Type) where
  items : Array α
  minGallop : Nat := galloping
  pending : Array Run := #[]

variable {α : Type} [Inhabited α] (lt : α → α → Option Bool)

/-- `k` items of `src` from `s` written into `dst` from `d`. -/
def copyRange (dst : Array α) (d : Nat) (src : Array α) (s k : Nat) : Array α :=
  (List.range k).foldl (fun a j => a.setIfInBounds (d + j) (src.getD (s + j) default)) dst

/-- The array with the `n` items from `lo` in reverse order. -/
def reverseRange (a : Array α) (lo n : Nat) : Array α :=
  copyRange a lo ((a.extract lo (lo + n)).reverse) 0 n

/-- The first place among the `n` sorted items of `a` from `base` where `key` may go before the
items not below it, searched from `hint` outwards and then by halving. -/
def gallopLeft (key : α) (a : Array α) (base n hint : Nat) : Option Nat := do
  let at_ := fun i => a.getD (base + i) default
  let mut ofs := 1
  let mut last := 0
  let mut lo := 0
  let mut hi := 0
  if ← lt (at_ hint) key then
    let maxofs := n - hint
    for _ in [0:n + 1] do
      if ofs < maxofs then
        if ← lt (at_ (hint + ofs)) key then
          last := ofs
          ofs := 2 * ofs + 1
        else break
      else break
    if ofs > maxofs then ofs := maxofs
    lo := last + hint + 1
    hi := ofs + hint
  else
    let maxofs := hint + 1
    for _ in [0:n + 1] do
      if ofs < maxofs then
        if ← lt (at_ (hint - ofs)) key then break
        last := ofs
        ofs := 2 * ofs + 1
      else break
    if ofs > maxofs then ofs := maxofs
    lo := hint + 1 - ofs
    hi := hint - last
  for _ in [0:n + 1] do
    if lo < hi then
      let m := lo + (hi - lo) / 2
      if ← lt (at_ m) key then lo := m + 1 else hi := m
    else break
  pure hi

/-- The last place among the `n` sorted items of `a` from `base` where `key` may go, after the
items it is not below, searched from `hint` outwards and then by halving. -/
def gallopRight (key : α) (a : Array α) (base n hint : Nat) : Option Nat := do
  let at_ := fun i => a.getD (base + i) default
  let mut ofs := 1
  let mut last := 0
  let mut lo := 0
  let mut hi := 0
  if ← lt key (at_ hint) then
    let maxofs := hint + 1
    for _ in [0:n + 1] do
      if ofs < maxofs then
        if ← lt key (at_ (hint - ofs)) then
          last := ofs
          ofs := 2 * ofs + 1
        else break
      else break
    if ofs > maxofs then ofs := maxofs
    lo := hint + 1 - ofs
    hi := hint - last
  else
    let maxofs := n - hint
    for _ in [0:n + 1] do
      if ofs < maxofs then
        if ← lt key (at_ (hint + ofs)) then break
        last := ofs
        ofs := 2 * ofs + 1
      else break
    if ofs > maxofs then ofs := maxofs
    lo := last + hint + 1
    hi := ofs + hint
  for _ in [0:n + 1] do
    if lo < hi then
      let m := lo + (hi - lo) / 2
      if ← lt key (at_ m) then hi := m else lo := m + 1
    else break
  pure hi

/-- Merges the run of `na` items at `pa` with the run of `nb` items right after it at `pb`,
from the left, the left run set aside. Meant for `na ≤ nb`. -/
def mergeLow (s : State α) (pa na0 pb0 nb0 : Nat) : Option (State α) := do
  let fuel := 2 * (na0 + nb0) + 4
  let tmp := s.items.extract pa (pa + na0)
  let mut a := s.items
  let mut ia := 0
  let mut na := na0
  let mut pb := pb0
  let mut nb := nb0
  let mut dest := pa
  let mut minGallop := s.minGallop
  a := a.setIfInBounds dest (a.getD pb default)
  dest := dest + 1
  pb := pb + 1
  nb := nb - 1
  if nb == 0 then return { s with items := copyRange a dest tmp ia na }
  if na == 1 then
    return { s with items := (copyRange a dest a pb nb).setIfInBounds (dest + nb) (tmp.getD ia default) }
  for _ in [0:fuel] do
    let mut acount := 0
    let mut bcount := 0
    for _ in [0:fuel] do
      if ← lt (a.getD pb default) (tmp.getD ia default) then
        a := a.setIfInBounds dest (a.getD pb default)
        dest := dest + 1
        pb := pb + 1
        bcount := bcount + 1
        acount := 0
        nb := nb - 1
        if nb == 0 then
          return { s with items := copyRange a dest tmp ia na, minGallop := minGallop }
        if bcount ≥ minGallop then break
      else
        a := a.setIfInBounds dest (tmp.getD ia default)
        dest := dest + 1
        ia := ia + 1
        acount := acount + 1
        bcount := 0
        na := na - 1
        if na == 1 then
          return { s with items := (copyRange a dest a pb nb).setIfInBounds (dest + nb) (tmp.getD ia default),
                          minGallop := minGallop }
        if acount ≥ minGallop then break
    minGallop := minGallop + 1
    for _ in [0:fuel] do
      if minGallop > 1 then minGallop := minGallop - 1
      let k ← gallopRight lt (a.getD pb default) tmp ia na 0
      acount := k
      if k > 0 then
        a := copyRange a dest tmp ia k
        dest := dest + k
        ia := ia + k
        na := na - k
        if na == 1 then
          return { s with items := (copyRange a dest a pb nb).setIfInBounds (dest + nb) (tmp.getD ia default),
                          minGallop := minGallop }
        if na == 0 then return { s with items := a, minGallop := minGallop }
      a := a.setIfInBounds dest (a.getD pb default)
      dest := dest + 1
      pb := pb + 1
      nb := nb - 1
      if nb == 0 then
        return { s with items := copyRange a dest tmp ia na, minGallop := minGallop }
      let k ← gallopLeft lt (tmp.getD ia default) a pb nb 0
      bcount := k
      if k > 0 then
        a := copyRange a dest a pb k
        dest := dest + k
        pb := pb + k
        nb := nb - k
        if nb == 0 then
          return { s with items := copyRange a dest tmp ia na, minGallop := minGallop }
      a := a.setIfInBounds dest (tmp.getD ia default)
      dest := dest + 1
      ia := ia + 1
      na := na - 1
      if na == 1 then
        return { s with items := (copyRange a dest a pb nb).setIfInBounds (dest + nb) (tmp.getD ia default),
                        minGallop := minGallop }
      if !(acount ≥ galloping || bcount ≥ galloping) then break
    minGallop := minGallop + 1
  none

/-- Merges the run of `na` items at `pa` with the run of `nb` items right after it at `pb`,
from the right, the right run set aside. Meant for `nb < na`. -/
def mergeHigh (s : State α) (pa na0 pb nb0 : Nat) : Option (State α) := do
  let fuel := 2 * (na0 + nb0) + 4
  let tmp := s.items.extract pb (pb + nb0)
  let mut a := s.items
  let mut na := na0
  let mut nb := nb0
  -- the places of the last items not yet taken, one past them so that they never go below zero
  let mut ib := nb0
  let mut ia := pa + na0
  let mut dest := pb + nb0
  let mut minGallop := s.minGallop
  a := a.setIfInBounds (dest - 1) (a.getD (ia - 1) default)
  dest := dest - 1
  ia := ia - 1
  na := na - 1
  if na == 0 then return { s with items := copyRange a (dest - nb) tmp 0 nb }
  if nb == 1 then
    return { s with items := (copyRange a (dest - na) a (ia - na) na).setIfInBounds (dest - na - 1) (tmp.getD (ib - 1) default) }
  for _ in [0:fuel] do
    let mut acount := 0
    let mut bcount := 0
    for _ in [0:fuel] do
      if ← lt (tmp.getD (ib - 1) default) (a.getD (ia - 1) default) then
        a := a.setIfInBounds (dest - 1) (a.getD (ia - 1) default)
        dest := dest - 1
        ia := ia - 1
        acount := acount + 1
        bcount := 0
        na := na - 1
        if na == 0 then
          return { s with items := copyRange a (dest - nb) tmp 0 nb, minGallop := minGallop }
        if acount ≥ minGallop then break
      else
        a := a.setIfInBounds (dest - 1) (tmp.getD (ib - 1) default)
        dest := dest - 1
        ib := ib - 1
        bcount := bcount + 1
        acount := 0
        nb := nb - 1
        if nb == 1 then
          return { s with items := (copyRange a (dest - na) a (ia - na) na).setIfInBounds (dest - na - 1) (tmp.getD (ib - 1) default),
                          minGallop := minGallop }
        if bcount ≥ minGallop then break
    minGallop := minGallop + 1
    for _ in [0:fuel] do
      if minGallop > 1 then minGallop := minGallop - 1
      let k ← gallopRight lt (tmp.getD (ib - 1) default) a pa na (na - 1)
      let k := na - k
      acount := k
      if k > 0 then
        dest := dest - k
        ia := ia - k
        a := copyRange a dest a ia k
        na := na - k
        if na == 0 then
          return { s with items := copyRange a (dest - nb) tmp 0 nb, minGallop := minGallop }
      a := a.setIfInBounds (dest - 1) (tmp.getD (ib - 1) default)
      dest := dest - 1
      ib := ib - 1
      nb := nb - 1
      if nb == 1 then
        return { s with items := (copyRange a (dest - na) a (ia - na) na).setIfInBounds (dest - na - 1) (tmp.getD (ib - 1) default),
                        minGallop := minGallop }
      let k ← gallopLeft lt (a.getD (ia - 1) default) tmp 0 nb (nb - 1)
      let k := nb - k
      bcount := k
      if k > 0 then
        dest := dest - k
        ib := ib - k
        a := copyRange a dest tmp ib k
        nb := nb - k
        if nb == 1 then
          return { s with items := (copyRange a (dest - na) a (ia - na) na).setIfInBounds (dest - na - 1) (tmp.getD (ib - 1) default),
                          minGallop := minGallop }
        if nb == 0 then return { s with items := a, minGallop := minGallop }
      a := a.setIfInBounds (dest - 1) (a.getD (ia - 1) default)
      dest := dest - 1
      ia := ia - 1
      na := na - 1
      if na == 0 then
        return { s with items := copyRange a (dest - nb) tmp 0 nb, minGallop := minGallop }
      if !(acount ≥ galloping || bcount ≥ galloping) then break
    minGallop := minGallop + 1
  none

/-- Merges the waiting runs `i` and `i + 1`. -/
def mergeAt (s : State α) (i : Nat) : Option (State α) := do
  let ra := s.pending.getD i default
  let rb := s.pending.getD (i + 1) default
  let s := { s with pending := (s.pending.setIfInBounds i { ra with len := ra.len + rb.len }).eraseIdxIfInBounds (i + 1) }
  let k ← gallopRight lt (s.items.getD rb.base default) s.items ra.base ra.len 0
  let pa := ra.base + k
  let na := ra.len - k
  if na == 0 then return s
  let nb ← gallopLeft lt (s.items.getD (pa + na - 1) default) s.items rb.base rb.len (rb.len - 1)
  if nb == 0 then return s
  if na ≤ nb then mergeLow lt s pa na rb.base nb else mergeHigh lt s pa na rb.base nb

/-- The length of the run that starts at `lo` and ends by `hi`, and whether it falls. -/
def countRun (a : Array α) (lo hi : Nat) : Option (Nat × Bool) := do
  if lo + 1 == hi then return (1, false)
  let falling ← lt (a.getD (lo + 1) default) (a.getD lo default)
  let mut n := 2
  for k in [lo + 2:hi] do
    let below ← lt (a.getD k default) (a.getD (k - 1) default)
    if below != falling then break
    n := n + 1
  pure (n, falling)

/-- The items from `lo` to `hi` sorted by binary insertion, those before `start` sorted already. -/
def binaryInsert (a0 : Array α) (lo hi start0 : Nat) : Option (Array α) := do
  let mut a := a0
  let start := if lo == start0 then start0 + 1 else start0
  for i in [start:hi] do
    let pivot := a.getD i default
    let mut l := lo
    let mut r := i
    for _ in [0:hi + 1] do
      if l < r then
        let p := l + (r - l) / 2
        if ← lt pivot (a.getD p default) then r := p else l := p + 1
      else break
    a := (copyRange a (l + 1) a l (i - l)).setIfInBounds l pivot
  pure a

/-- The shortest length a run is extended to in an array of `n` items: `n` itself below 64,
else the top six bits of `n`, plus one when any bit below them is set. -/
def minRun (n : Nat) : Nat :=
  if n < 64 then n
  else
    let k := n.log2 - 5
    n / Nat.pow 2 k + (if n % Nat.pow 2 k == 0 then 0 else 1)

/-- The power of the boundary between a run of `n1` items at `s1` and the `n2` items after it, in
an array of `n`: the first bit at which the halvings of the two runs' midpoints differ. -/
def powerOf (s1 n1 n2 n : Nat) : Nat := Id.run do
  let mut a := 2 * s1 + n1
  let mut b := a + n1 + n2
  let mut result := 0
  for _ in [0:2 * n + 64] do
    result := result + 1
    if a ≥ n then
      a := a - n
      b := b - n
    else if b ≥ n then break
    a := 2 * a
    b := 2 * b
  pure result

/-- Sorts an array stably by `lt`; none when a comparison fails. -/
def adaptive? (xs : Array α) : Option (Array α) := do
  let n := xs.size
  if n < 2 then return xs
  let mr := minRun n
  let mut s : State α := { items := xs }
  let mut lo := 0
  for _ in [0:n] do
    if lo ≥ n then break
    let rem := n - lo
    let (run0, falling) ← countRun lt s.items lo n
    if falling then s := { s with items := reverseRange s.items lo run0 }
    let mut run := run0
    if run < mr then
      let force := if rem ≤ mr then rem else mr
      s := { s with items := ← binaryInsert lt s.items lo (lo + force) (lo + run) }
      run := force
    if s.pending.size > 0 then
      let top := s.pending.back!
      let power := powerOf top.base top.len run n
      for _ in [0:n] do
        if s.pending.size > 1 && (s.pending.getD (s.pending.size - 2) default).power > power then
          s ← mergeAt lt s (s.pending.size - 2)
        else break
      s := { s with pending := s.pending.modify (s.pending.size - 1) fun r => { r with power := power } }
    s := { s with pending := s.pending.push ⟨lo, run, 0⟩ }
    lo := lo + run
  for _ in [0:n] do
    if s.pending.size > 1 then
      let mut k := s.pending.size - 2
      if k > 0 && (s.pending.getD (k - 1) default).len < (s.pending.getD (k + 1) default).len then
        k := k - 1
      s ← mergeAt lt s k
    else break
  pure s.items

end Templating.Sort
