import Templating.Text.Surrogate

/-!
# Bytes a codec cannot read

A `DecodeError` names the codec as its messages do, the span of the offending bytes, the first
of them and the reason, as in
`'ascii' codec can't decode byte 0xc3 in position 3: ordinal not in range(128)`.

An `EncodeError` is the like for characters a codec cannot write, as in
`'utf-8' codec can't encode character '\udc80' in position 5: surrogates not allowed`;
`utf8Refusal?` finds the first run of lone surrogates, which UTF-8 cannot write.

A `ReadError` is why a file cannot be read as text at all: an unknown codec, one that does not
read text, bytes it cannot read, or a stream that the codec refuses as a whole, such as UTF-16
without a byte order mark, or a codec that fails within itself.
-/

namespace Templating.Codec

/-- Bytes that a codec cannot read: the codec's name in messages, the span of the bytes, the
first of them, and why. -/
structure DecodeError where
  codec : String
  start : Nat
  stop : Nat
  byte : UInt8
  reason : String
  deriving DecidableEq, Repr

/-- Two lower-case hexadecimal digits of a byte. -/
def hexByte (b : UInt8) : String :=
  let d := fun (n : Nat) => if n < 10 then Char.ofNat (48 + n) else Char.ofNat (87 + n)
  String.ofList [d (b.toNat / 16), d (b.toNat % 16)]

/-- The message of a decoding error: one byte is named with its value, several by their span. -/
def DecodeError.message (e : DecodeError) : String :=
  if e.stop == e.start + 1 then
    "'" ++ e.codec ++ "' codec can't decode byte 0x" ++ hexByte e.byte ++ " in position " ++
      toString e.start ++ ": " ++ e.reason
  else
    "'" ++ e.codec ++ "' codec can't decode bytes in position " ++ toString e.start ++ "-" ++
      toString (e.stop - 1) ++ ": " ++ e.reason

/-- Characters that a codec cannot write: the codec's name in messages, the span of the
characters, the code point of the first of them, and why. -/
structure EncodeError where
  codec : String
  start : Nat
  stop : Nat
  code : Nat
  reason : String
  deriving DecidableEq, Repr

/-- A code point written as an escape: two, four or eight lower-case hexadecimal digits after
`\x`, `\u` or `\U`, the fewest that hold it. -/
def codeEscape (n : Nat) : String :=
  let (mark, width) := if n ≤ 0xff then ('x', 2) else if n ≤ 0xffff then ('u', 4) else ('U', 8)
  let ds := Nat.toDigits 16 n
  String.ofList ('\\' :: mark :: List.replicate (width - ds.length) '0' ++ ds)

/-- The message of an encoding error: one character is named by its escape, several by their
span. -/
def EncodeError.message (e : EncodeError) : String :=
  if e.stop == e.start + 1 then
    "'" ++ e.codec ++ "' codec can't encode character '" ++ codeEscape e.code ++ "' in position " ++
      toString e.start ++ ": " ++ e.reason
  else
    "'" ++ e.codec ++ "' codec can't encode characters in position " ++ toString e.start ++ "-" ++
      toString (e.stop - 1) ++ ": " ++ e.reason

/-- The first run of lone surrogates in a text, which UTF-8 refuses to write. -/
def utf8Refusal? (s : String) : Option EncodeError :=
  let codes := Text.codesOf s
  (codes.findIdx? Text.isSurrogateCode).map fun i =>
    let run := ((codes.drop i).takeWhile Text.isSurrogateCode).length
    ⟨"utf-8", i, i + run, codes.getD i 0, "surrogates not allowed"⟩

/-- Why a file cannot be read as text. -/
inductive ReadError where
  | unknown (name : String)
  | notText (name : String)
  | undecodable (e : DecodeError)
  | refused (message : String)
  | internal
  deriving Repr

/-- The message of a reading error. -/
def ReadError.message : ReadError → String
  | .unknown name => "unknown encoding: " ++ name
  | .notText name =>
      "'" ++ name ++ "' is not a text encoding; use codecs.open() to handle arbitrary codecs"
  | .undecodable e => e.message
  | .refused message => message
  | .internal => "internal codec error"

end Templating.Codec
