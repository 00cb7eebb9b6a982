import Templating.Codec.Error

/-!
# Punycode

Punycode writes a text as its ASCII characters, a `-` when there are any, and then, in an
alphabet of 36 digits, the places and values of the other characters, smallest value first,
each as the difference from the one before in digits of varying width.

Reading splits the bytes at their last `-`: the ASCII before it is the base, the bytes after it,
read case-blind, the digits. A byte above ASCII fails the reading as ASCII would, at its place in
its part. A digit outside the alphabet, digits that stop inside a number, or a character past
`0x10FFFF` refuse the text.

The thresholds of the digits adapt to the differences seen so far; `adapt` damps the first one
by 700 and the others by 2.
-/

namespace Templating.Codec.Punycode

/-- The threshold of the `j`-th digit of a number: `36 (j + 1) - bias`, kept between 1 and 26. -/
def threshold (j bias : Nat) : Nat :=
  if 36 * (j + 1) ≤ bias then 1 else if 36 * (j + 1) ≥ bias + 26 then 26 else 36 * (j + 1) - bias

theorem threshold_pos (j bias : Nat) : 1 ≤ threshold j bias := by
  unfold threshold
  split
  · omega
  · split <;> omega

theorem threshold_le (j bias : Nat) : threshold j bias ≤ 26 := by
  unfold threshold
  split
  · omega
  · split <;> omega

/-- Divides by 35 until the value is at most 455, counting 36 for each division. -/
def shrink (delta divisions : Nat) : Nat × Nat :=
  if 455 < delta then shrink (delta / 35) (divisions + 36) else (delta, divisions)
termination_by delta
decreasing_by exact Nat.div_lt_self (by omega) (by omega)

/-- The bias after a difference, the first one damped by 700, the others by 2, over a text of
`count` characters. -/
def adapt (delta : Nat) (first : Bool) (count : Nat) : Nat :=
  let d := if first then delta / 700 else delta / 2
  let d := d + d / count
  let (d, divisions) := shrink d 0
  divisions + 36 * d / (d + 38)

/-- The value of a digit, read from an upper-case character: `A`-`Z` are 0 to 25, `0`-`9` are
26 to 35. -/
def digitValue (c : Char) : Option Nat :=
  let n := c.toNat
  if 0x41 ≤ n ∧ n ≤ 0x5A then some (n - 0x41)
  else if 0x30 ≤ n ∧ n ≤ 0x39 then some (n - 22)
  else none

/-- The character of a digit: `a`-`z` for 0 to 25, `0`-`9` for 26 to 35. -/
def digitChar (d : Nat) : Char :=
  if d < 26 then Char.ofNat (0x61 + d) else Char.ofNat (22 + d)

/-- Reads one number of varying width, its `j`-th digit weighing `w`: the number and the digits
after it. -/
def number (bias : Nat) : Nat → Nat → Nat → List Char → Except ReadError (Nat × List Char)
  | _, _, _, [] => .error (.refused "incomplete punicode string")
  | j, w, acc, c :: rest =>
      match digitValue c with
      | none => .error (.refused ("Invalid extended code point '" ++ String.singleton c ++ "'"))
      | some d =>
          let t := threshold j bias
          if d < t then .ok (acc + d * w, rest)
          else number bias (j + 1) (w * (36 - t)) (acc + d * w) rest

theorem number_shorter {bias j w acc : Nat} {cs rest : List Char} {n : Nat}
    (h : number bias j w acc cs = .ok (n, rest)) : rest.length < cs.length := by
  induction cs generalizing j w acc with
  | nil => simp [number] at h
  | cons c tail ih =>
      simp only [number] at h
      split at h
      · simp at h
      · split at h
        · simp only [Except.ok.injEq, Prod.mk.injEq] at h
          rw [← h.2]
          simp
        · have := ih h
          simp
          omega

/-- Lower-case hexadecimal digits of a number. -/
def hexText (n : Nat) : String := String.ofList (Nat.toDigits 16 n)

/-- Inserts the code points the digits stand for into the base. `start` is one past the place of
the last insertion, `char` the last code point inserted. Code points are kept as numbers, as
the text may come to hold halves of surrogate pairs. -/
def insertAll (base : List Nat) (char start bias : Nat) (first : Bool) (digits : List Char) :
    Except ReadError (List Nat) :=
  match digits with
  | [] => .ok base
  | c :: cs =>
      match h : number bias 0 1 0 (c :: cs) with
      | .error e => .error e
      | .ok (delta, rest) =>
          let n := start + delta
          let width := base.length + 1
          let char := char + n / width
          if char > 0x10FFFF then .error (.refused ("Invalid character U+" ++ hexText char))
          else
            let pos := n % width
            let base := base.take pos ++ char :: base.drop pos
            insertAll base char (pos + 1) (adapt delta first base.length) false rest
termination_by digits.length
decreasing_by exact number_shorter h

/-- The ASCII characters of bytes, or where a byte above ASCII fails them. -/
def asciiChars (bytes : List UInt8) : Except ReadError (List Char) :=
  match bytes.findIdx? (·.toNat ≥ 0x80) with
  | some i =>
      .error (.undecodable ⟨"ascii", i, i + 1, bytes.getD i 0, "ordinal not in range(128)"⟩)
  | none => .ok (bytes.map fun b => Char.ofNat b.toNat)

/-- The upper-case form of an ASCII character. -/
def upper (c : Char) : Char := if 'a' ≤ c ∧ c ≤ 'z' then Char.ofNat (c.toNat - 32) else c

/-- Reads Punycode as code points. -/
def decode (bytes : List UInt8) : Except ReadError (List Nat) :=
  match bytes.reverse.findIdx? (· == 45) with
  | none => do
      let digits ← asciiChars bytes
      insertAll [] 0x80 0 72 true (digits.map upper)
  | some k => do
      let cut := bytes.length - 1 - k
      let base ← asciiChars (bytes.take cut)
      let digits ← asciiChars (bytes.drop (cut + 1))
      insertAll (base.map Char.toNat) 0x80 0 72 true (digits.map upper)

/-- A number in digits of varying width, at a bias, its `j`-th digit next. -/
def digitsOf (bias j n : Nat) : List Char :=
  let t := threshold j bias
  if n < t then [digitChar n]
  else digitChar (t + (n - t) % (36 - t)) :: digitsOf bias (j + 1) ((n - t) / (36 - t))
termination_by n
decreasing_by
  have _h1 := threshold_pos j bias
  have _h2 := threshold_le j bias
  calc (n - threshold j bias) / (36 - threshold j bias)
      ≤ n - threshold j bias := Nat.div_le_self _ _
    _ < n := by omega

/-- The differences that place the occurrences of one code point, walking the text: `index`
counts the code points up to it passed so far, `last` is the index of the last occurrence
placed, and `delta` the difference still to add. -/
def placesOf (c : Nat) : List Nat → Int → Int → Int → List Int → List Int × Int
  | [], _, last, _, out => (out, last)
  | d :: ds, index, last, delta, out =>
      if d == c then
        let index := index + 1
        let delta := delta + (index - last)
        placesOf c ds index index 0 ((delta - 1) :: out)
      else if d < c then placesOf c ds (index + 1) last delta out
      else placesOf c ds index last delta out

/-- The differences of the code points above ASCII, smallest first. -/
def differences (text : List Nat) : List Nat → Nat → Int → List Int → List Int
  | [], _, _, out => out.reverse
  | c :: cs, old, last, out =>
      let below := (text.filter (· < c)).length
      let (out, last) := placesOf c text (-1) last ((below + 1 : Int) * (c - old : Int)) out
      differences text cs c last out

/-- The distinct code points above ASCII of a text, smallest first. -/
def extended (text : List Nat) : List Nat :=
  ((text.filter (· ≥ 0x80)).eraseDups).mergeSort (· ≤ ·)

/-- The digits of the differences, the bias adapting after each. -/
def digitsAll (baseLength : Nat) : Nat → Nat → List Int → List Char
  | _, _, [] => []
  | points, bias, d :: ds =>
      digitsOf bias 0 d.toNat ++
        digitsAll baseLength (points + 1) (adapt d.toNat (points == 0) (baseLength + points + 1)) ds

/-- Writes code points in Punycode. -/
def encode (text : List Nat) : List Char :=
  let base := (text.filter (· < 0x80)).map Char.ofNat
  let digits := digitsAll base.length 0 72 (differences text (extended text) 0x80 (-1) [])
  if base.isEmpty then digits else base ++ '-' :: digits

end Templating.Codec.Punycode
