import Templating.Codec.Error
import Templating.Data.Base64
import Templating.Text.Surrogate

/-!
# UTF-7

UTF-7 writes the ASCII characters other than `+` as themselves. A `+` opens a shift: base 64
digits follow, whose bits, sixteen at a time, are the UTF-16 units of the characters they stand
for, a high surrogate joined with the low one after it; a surrogate without its other half is a
character of its own, carried as `Text.Surrogate` says. The first byte that is not a digit ends
the shift; a `-` there is absorbed, any other byte is read again outside the shift. `+-` stands
for `+` itself.

The reading fails where a shift ends with a whole digit unused ("partial character"), with
unused bits that are not zero ("non-zero padding bits"), where a `+` is followed by neither a
digit nor `-` ("ill-formed sequence"), on a byte above ASCII outside a shift ("unexpected special
character"), and where the text ends inside a shift in any of these states ("unterminated shift
sequence").
-/

namespace Templating.Codec.Utf7

/-- The name of the codec in its messages. -/
def codec : String := "utf7"

/-- Whether a byte stands for itself outside a shift. -/
def direct (b : UInt8) : Bool := b.toNat ≤ 127 && b != 43

/-- The value of a base 64 digit. -/
def digit? (b : UInt8) : Option Nat := Base64.valueOf (Char.ofNat b.toNat)

/-- A shift being read: where its `+` stands, the bits not yet used and how many they are, and
a high surrogate waiting for its low half. -/
structure Shift where
  start : Nat
  bits : Nat := 0
  buffer : Nat := 0
  high : Option Nat := none

/-- A unit that no high surrogate waits for: a high surrogate waits itself, any other unit, a
lone low surrogate too, is a character. -/
def Shift.fresh (s : Shift) (u : Nat) (acc : List Char) : Shift × List Char :=
  if 0xD800 ≤ u ∧ u ≤ 0xDBFF then ({ s with high := some u }, acc)
  else (s, Text.charOfCode u :: acc)

/-- A UTF-16 unit added to the text: a low surrogate after a high one joins it into one
character; a high surrogate that gets no low one is a character of its own. -/
def Shift.put (s : Shift) (u : Nat) (acc : List Char) : Shift × List Char :=
  match s.high with
  | some hi =>
      if 0xDC00 ≤ u ∧ u ≤ 0xDFFF then
        ({ s with high := none }, Char.ofNat (0x10000 + (hi - 0xD800) * 0x400 + (u - 0xDC00)) :: acc)
      else Shift.fresh { s with high := none } u (Text.charOfCode hi :: acc)
  | none => s.fresh u acc

/-- The characters read when a shift ends: a high surrogate still waiting is one of its own. -/
def Shift.close (s : Shift) (acc : List Char) : List Char :=
  match s.high with
  | some hi => Text.charOfCode hi :: acc
  | none => acc

/-- A base 64 digit read in a shift. -/
def Shift.digit (s : Shift) (v : Nat) (acc : List Char) : Shift × List Char :=
  let buffer := s.buffer * 64 + v
  let bits := s.bits + 6
  if bits ≥ 16 then
    let rest := bits - 16
    Shift.put { s with bits := rest, buffer := buffer % Nat.pow 2 rest } (buffer / Nat.pow 2 rest) acc
  else ({ s with bits := bits, buffer := buffer }, acc)

/-- Why a shift cannot end where it stands, if it cannot. -/
def Shift.unfinished (s : Shift) : Option String :=
  if s.bits ≥ 6 then some "partial character in shift sequence"
  else if s.bits > 0 && s.buffer != 0 then some "non-zero padding bits in shift sequence"
  else none

/-- The measure of reading: every step either consumes a byte or leaves a shift. -/
def remaining (shift : Option Shift) (bytes : List UInt8) : Nat :=
  2 * bytes.length + (if shift.isSome then 1 else 0)

/-- Reads UTF-7 from a position, inside a shift or not, adding to the characters read so far in
reverse. -/
def readFrom (shift : Option Shift) (pos : Nat) (bytes : List UInt8) (acc : List Char) :
    Except DecodeError (List Char) :=
  match shift, bytes with
  | none, [] => .ok acc.reverse
  | some s, [] =>
      if s.high.isSome || s.bits ≥ 6 || (s.bits > 0 && s.buffer != 0) then
        .error ⟨codec, s.start, pos, 43, "unterminated shift sequence"⟩
      else .ok acc.reverse
  | some s, b :: rest =>
      match digit? b with
      | some v =>
          let (s, acc) := s.digit v acc
          readFrom (some s) (pos + 1) rest acc
      | none =>
          match s.unfinished with
          | some reason => .error ⟨codec, s.start, pos + 1, 43, reason⟩
          | none =>
              if b == 45 then readFrom none (pos + 1) rest (s.close acc)
              else readFrom none pos (b :: rest) (s.close acc)
  | none, 43 :: 45 :: rest => readFrom none (pos + 2) rest ('+' :: acc)
  | none, 43 :: c :: rest =>
      if (digit? c).isSome then readFrom (some ⟨pos, 0, 0, none⟩) (pos + 1) (c :: rest) acc
      else .error ⟨codec, pos, pos + 2, 43, "ill-formed sequence"⟩
  | none, [43] => readFrom (some ⟨pos, 0, 0, none⟩) (pos + 1) [] acc
  | none, b :: rest =>
      if direct b then readFrom none (pos + 1) rest (Char.ofNat b.toNat :: acc)
      else .error ⟨codec, pos, pos + 1, b, "unexpected special character"⟩
termination_by remaining shift bytes
decreasing_by all_goals (simp [remaining]; try omega)

/-- Reads UTF-7 text. -/
def read (bytes : List UInt8) : Except DecodeError (List Char) := readFrom none 0 bytes []

end Templating.Codec.Utf7
