import Templating.Codec.Error
import Templating.Text.Surrogate
import Templating.Text.Names

/-!
# Escaped text

Two codecs read bytes as Latin-1 characters in which a backslash starts an escape.

The escaping codec knows the escapes of a string literal: a backslash before a line feed is
dropped; `\\`, `\'`, `\"`, `\a`, `\b`, `\f`, `\n`, `\r`, `\t` and `\v` stand for the character
they name; one to three octal digits for the character of that number; `\x`, `\u` and `\U`
followed by two, four or eight hexadecimal digits for the character of that number, which must
not pass `0x10FFFF` and may be a lone surrogate (`Text.Surrogate`); `\N` and a name in braces
for the character of that name (`Text.Names`). Any other escape keeps its backslash.

The raw codec knows only `\u` and `\U`; a backslash before any other byte stands for itself,
and the byte after it is read as it is, so of two backslashes in a row neither escapes what
follows.

An escape that is cut short fails from its backslash up to the byte that ends it.
-/

namespace Templating.Codec.Escape

/-- The value of a hexadecimal digit. -/
def hexDigit? (b : UInt8) : Option Nat :=
  let c := b.toNat
  if 48 ≤ c ∧ c ≤ 57 then some (c - 48)
  else if 97 ≤ c ∧ c ≤ 102 then some (c - 87)
  else if 65 ≤ c ∧ c ≤ 70 then some (c - 55)
  else none

/-- Reads `count` hexadecimal digits: the number they make, or how many were read before the
digits stopped. -/
def hexRun : Nat → Nat → List UInt8 → Except Nat Nat
  | 0, n, _ => .ok n
  | _ + 1, _, [] => .error 0
  | count + 1, n, b :: rest =>
      match hexDigit? b with
      | none => .error 0
      | some d =>
          match hexRun count (16 * n + d) rest with
          | .ok r => .ok r
          | .error k => .error (k + 1)

/-- Whether a byte is an octal digit. -/
def isOctal (b : UInt8) : Bool := 48 ≤ b.toNat && b.toNat ≤ 55

/-- The character a one-letter escape names. -/
def named? : UInt8 → Option Char
  | 10 => none
  | 92 => some '\\'
  | 39 => some (Char.ofNat 39)
  | 34 => some '"'
  | 98 => some '\x08'
  | 102 => some '\x0c'
  | 116 => some '\t'
  | 110 => some '\n'
  | 114 => some '\r'
  | 118 => some '\x0b'
  | 97 => some '\x07'
  | _ => none

/-- The digits a hexadecimal escape takes, and the reason it fails when they are cut short. -/
def hexEscape? : UInt8 → Option (Nat × String)
  | 120 => some (2, "truncated \\xXX escape")
  | 117 => some (4, "truncated \\uXXXX escape")
  | 85 => some (8, "truncated \\UXXXXXXXX escape")
  | _ => none

/-- The escaping codec from a position, adding to the characters read so far in reverse. -/
def escapedFrom (codec : String) (pos : Nat) : List UInt8 → List Char → Except DecodeError (List Char)
  | [], acc => .ok acc.reverse
  | b :: rest, acc =>
      if b != 92 then escapedFrom codec (pos + 1) rest (Char.ofNat b.toNat :: acc)
      else match rest with
        | [] => .error ⟨codec, pos, pos + 1, b, "\\ at end of string"⟩
        | 10 :: more => escapedFrom codec (pos + 2) more acc
        | c :: more =>
            match named? c with
            | some ch => escapedFrom codec (pos + 2) more (ch :: acc)
            | none =>
                if isOctal c then
                  let ds := ((c :: more).take 3).takeWhile isOctal
                  let n := ds.foldl (fun n d => 8 * n + (d.toNat - 48)) 0
                  escapedFrom codec (pos + 1 + ds.length) ((c :: more).drop ds.length) (Text.charOfCode n :: acc)
                else match hexEscape? c with
                  | some (count, reason) =>
                      match hexRun count 0 more with
                      | .error k => .error ⟨codec, pos, pos + 2 + k, b, reason⟩
                      | .ok n =>
                          if n > 0x10FFFF then
                            .error ⟨codec, pos, pos + 2 + count, b, "illegal Unicode character"⟩
                          else escapedFrom codec (pos + 2 + count) (more.drop count) (Text.charOfCode n :: acc)
                  | none =>
                      if c == 78 then
                        match nameEscape codec pos more with
                        | .ok (code, count) =>
                            escapedFrom codec (pos + 2 + count) (more.drop count) (Text.charOfCode code :: acc)
                        | .error e => .error e
                      else escapedFrom codec (pos + 2) more (Char.ofNat c.toNat :: '\\' :: acc)
termination_by bytes => bytes.length
decreasing_by all_goals (simp_all; try omega)
where
  /-- A `\N` escape: the code point its name in braces names and the bytes it takes after the
  `N`; an unknown name fails up to the closing brace, a missing or empty name where it is found
  to be malformed. -/
  nameEscape (codec : String) (pos : Nat) (more : List UInt8) : Except DecodeError (Nat × Nat) :=
    match more with
    | 123 :: name =>
        match name.findIdx? (· == 125) with
        | some 0 => .error ⟨codec, pos, pos + 3, 92, "malformed \\N character escape"⟩
        | some i =>
            match Text.codeOfName? ((name.take i).map fun b => Char.ofNat b.toNat) with
            | some code => .ok (code, i + 2)
            | none => .error ⟨codec, pos, pos + 4 + i, 92, "unknown Unicode character name"⟩
        | none => .error ⟨codec, pos, pos + 3 + name.length, 92, "malformed \\N character escape"⟩
    | _ => .error ⟨codec, pos, pos + 2, 92, "malformed \\N character escape"⟩

/-- The raw codec from a position, adding to the characters read so far in reverse. -/
def rawFrom (codec : String) (pos : Nat) : List UInt8 → List Char → Except DecodeError (List Char)
  | [], acc => .ok acc.reverse
  | [b], acc => .ok (Char.ofNat b.toNat :: acc).reverse
  | b :: c :: more, acc =>
      if b != 92 then rawFrom codec (pos + 1) (c :: more) (Char.ofNat b.toNat :: acc)
      else match (if c == 117 || c == 85 then hexEscape? c else none) with
        | some (count, reason) =>
            match hexRun count 0 more with
            | .error k => .error ⟨codec, pos, pos + 2 + k, b, reason⟩
            | .ok n =>
                if n > 0x10FFFF then
                  .error ⟨codec, pos, pos + 2 + count, b, "\\Uxxxxxxxx out of range"⟩
                else rawFrom codec (pos + 2 + count) (more.drop count) (Text.charOfCode n :: acc)
        | none => rawFrom codec (pos + 2) more (Char.ofNat c.toNat :: '\\' :: acc)
termination_by bytes => bytes.length
decreasing_by all_goals (simp_all; try omega)

/-- Reads text with the escapes of a string literal. -/
def read (bytes : List UInt8) : Except DecodeError (List Char) :=
  escapedFrom "unicodeescape" 0 bytes []

/-- Reads text whose only escapes are `\u` and `\U`. -/
def readRaw (bytes : List UInt8) : Except DecodeError (List Char) :=
  rawFrom "rawunicodeescape" 0 bytes []

end Templating.Codec.Escape
