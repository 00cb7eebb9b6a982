import Templating.Codec.Cjk.Gb

/-!
# HZ

HZ writes GB2312 in seven bits. Text starts in ASCII, where `~~` stands for `~`, `~{` switches
to GB2312, and `~` before a line feed joins the lines. In GB2312 every two bytes from `0x21` to
`0x7E` name the character of the table at the bytes with their high bits set, and `~}` switches
back to ASCII. Any other byte after `~`, any byte above ASCII, and a pair the table lacks fail at
their first byte; a text that stops inside a pair or after a `~` is incomplete.
-/

namespace Templating.Codec.Hz

/-- The name of the codec in its messages. -/
def codec : String := "hz"

/-- The character of GB2312 at two bytes of seven bits. -/
def gbChar? (c d : UInt8) : Option Char :=
  if d.toNat ≥ 0x80 then none
  else
    let x := cellIn gb2312.rows (c.toNat + 0x80) (d.toNat + 0x80)
    if x == noChar || x == noPair || x == moreChar || x == severalChar then none else some x

/-- Reads HZ from a position, in GB2312 or in ASCII, adding to the characters read so far in
reverse. -/
def readFrom (gb : Bool) (pos : Nat) : List UInt8 → List Char → Except DecodeError (List Char)
  | [], acc => .ok acc.reverse
  | [b], acc =>
      if b == 126 || (gb && b.toNat < 0x80) then
        .error ⟨codec, pos, pos + 1, b, "incomplete multibyte sequence"⟩
      else if b.toNat ≥ 0x80 then .error ⟨codec, pos, pos + 1, b, "illegal multibyte sequence"⟩
      else .ok (Char.ofNat b.toNat :: acc).reverse
  | b :: c :: rest, acc =>
      if b == 126 then
        if c == 126 && !gb then readFrom false (pos + 2) rest ('~' :: acc)
        else if c == 123 && !gb then readFrom true (pos + 2) rest acc
        else if c == 10 && !gb then readFrom false (pos + 2) rest acc
        else if c == 125 && gb then readFrom false (pos + 2) rest acc
        else .error ⟨codec, pos, pos + 1, b, "illegal multibyte sequence"⟩
      else if b.toNat ≥ 0x80 then .error ⟨codec, pos, pos + 1, b, "illegal multibyte sequence"⟩
      else if !gb then readFrom false (pos + 1) (c :: rest) (Char.ofNat b.toNat :: acc)
      else match gbChar? b c with
        | some x => readFrom true (pos + 2) rest (x :: acc)
        | none => .error ⟨codec, pos, pos + 1, b, "illegal multibyte sequence"⟩

/-- Reads HZ text. -/
def read (bytes : List UInt8) : Except DecodeError (List Char) := readFrom false 0 bytes []

end Templating.Codec.Hz
