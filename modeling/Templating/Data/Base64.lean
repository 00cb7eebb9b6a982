/-!
# Base64

Bytes are written in base 64 as lines of at most 76 characters, each ended by a line feed, the
last group padded with `=`.

Reading skips every character outside the alphabet. A `=` that comes after at least two
characters of a group ends the reading once it and the ones before it fill the group; one that
comes earlier is skipped. A group left with a single character, or unfinished without padding,
fails the reading, which tells which of the two it met.
-/

namespace Templating.Base64

/-- The alphabet of base 64. -/
def alphabet : List Char :=
  "ABCDEFGHIJKLMNOPQRSTUVWXYZabcdefghijklmnopqrstuvwxyz0123456789+/".toList

/-- The value of a character of the alphabet. -/
def valueOf (c : Char) : Option Nat :=
  if 'A' ≤ c ∧ c ≤ 'Z' then some (c.toNat - 65)
  else if 'a' ≤ c ∧ c ≤ 'z' then some (c.toNat - 71)
  else if '0' ≤ c ∧ c ≤ '9' then some (c.toNat + 4)
  else if c = '+' then some 62
  else if c = '/' then some 63
  else none

/-- The state of reading: the place in the group, the bits left over, the pads seen, and the
bytes so far in reverse. -/
structure Reader where
  place : Nat := 0
  left : Nat := 0
  pads : Nat := 0
  out : List UInt8 := []

/-- Why characters do not end a group properly: a group of a single character, after the
number of characters a whole number of groups before it holds, or an unfinished group. -/
def Reader.failure (r : Reader) : String :=
  if r.place == 1 then
    "Invalid base64-encoded string: number of data characters (" ++ toString (r.out.length / 3 * 4 + 1) ++
      ") cannot be 1 more than a multiple of 4"
  else "Incorrect padding"

/-- Reads the characters; fails when they do not end a group properly. -/
def readChars : Reader → List Char → Except String (List UInt8)
  | r, [] => if r.place == 0 then .ok r.out.reverse else .error r.failure
  | r, c :: rest =>
      if c == '=' then
        if r.place ≥ 2 && r.place + (r.pads + 1) ≥ 4 then .ok r.out.reverse
        else readChars (if r.place ≥ 2 then { r with pads := r.pads + 1 } else r) rest
      else match valueOf c with
        | none => readChars r rest
        | some v =>
            let r := { r with pads := 0 }
            match r.place with
            | 0 => readChars { r with place := 1, left := v } rest
            | 1 =>
                let out := (r.left * 4 + v / 16).toUInt8 :: r.out
                readChars { r with place := 2, left := v % 16, out := out } rest
            | 2 =>
                let out := (r.left * 16 + v / 4).toUInt8 :: r.out
                readChars { r with place := 3, left := v % 4, out := out } rest
            | _ =>
                let out := (r.left * 64 + v).toUInt8 :: r.out
                readChars { r with place := 0, left := 0, out := out } rest

/-- The bytes a base 64 text stands for, or why it stands for none. -/
def decode (s : String) : Except String (List UInt8) := readChars {} s.toList

/-- The four characters of a group of up to three bytes, padded. -/
def group : List UInt8 → List Char
  | [a] =>
      let n := a.toNat * 65536
      [alphabet.getD (n / 262144) 'A', alphabet.getD (n / 4096 % 64) 'A', '=', '=']
  | [a, b] =>
      let n := a.toNat * 65536 + b.toNat * 256
      [alphabet.getD (n / 262144) 'A', alphabet.getD (n / 4096 % 64) 'A',
        alphabet.getD (n / 64 % 64) 'A', '=']
  | a :: b :: c :: _ =>
      let n := a.toNat * 65536 + b.toNat * 256 + c.toNat
      [alphabet.getD (n / 262144) 'A', alphabet.getD (n / 4096 % 64) 'A',
        alphabet.getD (n / 64 % 64) 'A', alphabet.getD (n % 64) 'A']
  | [] => []

/-- The groups of bytes, three at a time. -/
def groups (fuel : Nat) (bs : List UInt8) : List Char :=
  match fuel, bs with
  | 0, _ => []
  | _, [] => []
  | fuel + 1, bs => group (bs.take 3) ++ groups fuel (bs.drop 3)

/-- Bytes written in base 64, in lines of at most 76 characters each ended by a line feed. -/
def encodeLines (bs : List UInt8) : String :=
  let chunks := (List.range ((bs.length + 56) / 57)).map fun i => (bs.drop (57 * i)).take 57
  String.join (chunks.map fun c => String.ofList (groups c.length c) ++ "\n")

end Templating.Base64
