import Templating.Codec.Name
import Templating.Codec.Tables
import Templating.Codec.Error
import Templating.Codec.Cjk.ShiftJis
import Templating.Codec.Cjk.EucJp
import Templating.Codec.Cjk.Jis2004
import Templating.Codec.Cjk.Gb
import Templating.Codec.Cjk.Big5
import Templating.Codec.Cjk.Korean
import Templating.Codec.Hz
import Templating.Codec.Utf7
import Templating.Codec.Escape
import Templating.Codec.Idna
import Templating.Codec.Iso2022
import Templating.Text.Surrogate

/-!
# Reading bytes as text

A codec reads bytes as text by one of a few schemes:

* UTF-8, optionally skipping a leading byte order mark;
* UTF-16 and UTF-32 in a given byte order, or in the order a leading mark gives, little endian
  without one;
* ASCII, Latin-1, and the single-byte tables;
* the tables of several bytes per character of Chinese, Japanese and Korean, and HZ;
* UTF-7, text with escapes, Punycode and internationalized domain names;
* the ISO-2022 codecs.

Some codecs turn bytes into bytes and read no text at all, and one reads nothing.

UTF-16 and UTF-32 without a given byte order refuse a text that reads well but has no byte
order mark.

A byte sequence that the scheme does not allow stops the reading with a `DecodeError`: the
codec's name, the span of the offending bytes and the reason, as in
`'ascii' codec can't decode byte 0xc3 in position 3: ordinal not in range(128)`.
-/

namespace Templating.Codec

/-- A byte order. -/
inductive Order where
  | little
  | big
  deriving DecidableEq, Repr

/-- How a codec reads bytes. -/
inductive Scheme where
  | utf8 (skipMark : Bool)
  | utf16 (order : Option Order)
  | utf32 (order : Option Order)
  | ascii
  | latin1
  | table (chars : Array Char)
  | multibyte (t : Table)
  | hz
  | utf7
  | escaped (raw : Bool)
  | punycode
  | idna
  | iso2022 (name : String)
  | undefined
  | binary

/-- The codecs that turn bytes into bytes. -/
def binaryCodecs : List String :=
  ["base64_codec", "bz2_codec", "hex_codec", "quopri_codec", "rot_13", "uu_codec", "zlib_codec"]

/-- The tables of several bytes per character. -/
def multibyteTables : List Table :=
  [shiftJis, cp932, eucJp, shiftJis2004, shiftJisx0213, eucJis2004, eucJisx0213, gbk, gb2312,
    gb18030, big5, cp950, big5hkscs, eucKr, cp949, johab]

/-- The scheme of a codec, by its own name. -/
def scheme (codec : String) : Scheme :=
  match codec with
  | "utf_8" => .utf8 false
  | "utf_8_sig" => .utf8 true
  | "utf_16" => .utf16 none
  | "utf_16_le" => .utf16 (some .little)
  | "utf_16_be" => .utf16 (some .big)
  | "utf_32" => .utf32 none
  | "utf_32_le" => .utf32 (some .little)
  | "utf_32_be" => .utf32 (some .big)
  | "ascii" => .ascii
  | "latin_1" => .latin1
  | "charmap" => .latin1
  | "hz" => .hz
  | "utf_7" => .utf7
  | "unicode_escape" => .escaped false
  | "raw_unicode_escape" => .escaped true
  | "punycode" => .punycode
  | "idna" => .idna
  | "undefined" => .undefined
  | _ =>
      if binaryCodecs.contains codec then .binary
      else match byteTables.lookup codec with
        | some t => .table t.toList.toArray
        | none =>
            match multibyteTables.find? (·.name == codec) with
            | some t => .multibyte t
            | none => .iso2022 codec

/-- The length of the sequence a UTF-8 lead byte starts, with the bounds of its second byte. -/
def leadOf (b : Nat) : Option (Nat × Nat × Nat) :=
  if 0xC2 ≤ b ∧ b ≤ 0xDF then some (2, 0x80, 0xBF)
  else if b = 0xE0 then some (3, 0xA0, 0xBF)
  else if b = 0xED then some (3, 0x80, 0x9F)
  else if 0xE1 ≤ b ∧ b ≤ 0xEF then some (3, 0x80, 0xBF)
  else if b = 0xF0 then some (4, 0x90, 0xBF)
  else if b = 0xF4 then some (4, 0x80, 0x8F)
  else if 0xF1 ≤ b ∧ b ≤ 0xF3 then some (4, 0x80, 0xBF)
  else none

/-- The number of leading continuation bytes that are allowed, the first within `lo` and `hi`. -/
def validContinuations (lo hi : Nat) : List UInt8 → Nat
  | [] => 0
  | c :: rest =>
      if lo ≤ c.toNat ∧ c.toNat ≤ hi then 1 + validContinuations 0x80 0xBF rest else 0

/-- The code point of a lead byte and its continuation bytes. -/
def codePoint (len lead : Nat) (conts : List UInt8) : Nat :=
  let first := lead % (if len = 2 then 0x20 else if len = 3 then 0x10 else 0x08)
  conts.foldl (fun n c => n * 64 + c.toNat % 64) first

/-- Reads UTF-8 bytes from position `pos`. -/
def utf8Chars (bytes : List UInt8) (pos : Nat) (acc : List Char) : Except DecodeError (List Char) :=
  match bytes with
  | [] => .ok acc.reverse
  | b :: rest =>
      if b.toNat < 0x80 then utf8Chars rest (pos + 1) (Char.ofNat b.toNat :: acc)
      else match leadOf b.toNat with
        | none => .error ⟨"utf-8", pos, pos + 1, b, "invalid start byte"⟩
        | some (len, lo, hi) =>
            let k := validContinuations lo hi (rest.take (len - 1))
            if k < len - 1 then
              if k < rest.length then .error ⟨"utf-8", pos, pos + 1 + k, b, "invalid continuation byte"⟩
              else .error ⟨"utf-8", pos, pos + 1 + rest.length, b, "unexpected end of data"⟩
            else
              utf8Chars (rest.drop (len - 1)) (pos + len)
                (Char.ofNat (codePoint len b.toNat (rest.take (len - 1))) :: acc)
termination_by bytes.length
decreasing_by
  · exact Nat.lt_succ_self _
  · rw [List.length_drop]
    exact Nat.lt_succ_of_le (Nat.sub_le _ _)

/-- The name of a UTF-16 or UTF-32 codec in a byte order. -/
def unitCodec (bits : String) : Order → String
  | .little => "utf-" ++ bits ++ "-le"
  | .big => "utf-" ++ bits ++ "-be"

/-- The value of two bytes in a byte order. -/
def unit16 (o : Order) (a b : UInt8) : Nat :=
  match o with
  | .little => a.toNat + 256 * b.toNat
  | .big => 256 * a.toNat + b.toNat

/-- Reads UTF-16 code units from position `pos`. -/
def utf16Chars (o : Order) (bytes : List UInt8) (pos : Nat) (acc : List Char) :
    Except DecodeError (List Char) :=
  match bytes with
  | [] => .ok acc.reverse
  | [b] => .error ⟨unitCodec "16" o, pos, pos + 1, b, "truncated data"⟩
  | a :: b :: rest =>
      let u := unit16 o a b
      if u < 0xD800 ∨ 0xDFFF < u then utf16Chars o rest (pos + 2) (Char.ofNat u :: acc)
      else if 0xDC00 ≤ u then .error ⟨unitCodec "16" o, pos, pos + 2, a, "illegal encoding"⟩
      else match rest with
        | c :: d :: more =>
            let v := unit16 o c d
            if 0xDC00 ≤ v ∧ v ≤ 0xDFFF then
              utf16Chars o more (pos + 4)
                (Char.ofNat (0x10000 + (u - 0xD800) * 0x400 + (v - 0xDC00)) :: acc)
            else .error ⟨unitCodec "16" o, pos, pos + 2, a, "illegal UTF-16 surrogate"⟩
        | _ => .error ⟨unitCodec "16" o, pos, pos + 2 + rest.length, a, "unexpected end of data"⟩

/-- Reads UTF-32 code units from position `pos`. -/
def utf32Chars (o : Order) (bytes : List UInt8) (pos : Nat) (acc : List Char) :
    Except DecodeError (List Char) :=
  match bytes with
  | a :: b :: c :: d :: rest =>
      let u := match o with
        | .little => a.toNat + 256 * b.toNat + 65536 * c.toNat + 16777216 * d.toNat
        | .big => 16777216 * a.toNat + 65536 * b.toNat + 256 * c.toNat + d.toNat
      if 0x110000 ≤ u then
        .error ⟨unitCodec "32" o, pos, pos + 4, a, "code point not in range(0x110000)"⟩
      else if 0xD800 ≤ u ∧ u ≤ 0xDFFF then
        .error ⟨unitCodec "32" o, pos, pos + 4, a,
          "code point in surrogate code point range(0xd800, 0xe000)"⟩
      else utf32Chars o rest (pos + 4) (Char.ofNat u :: acc)
  | [] => .ok acc.reverse
  | b :: rest => .error ⟨unitCodec "32" o, pos, pos + 1 + rest.length, b, "truncated data"⟩

/-- Reads bytes one by one, each by a function that may leave it undefined. -/
def byteChars (codec reason : String) (f : UInt8 → Option Char) :
    List UInt8 → Nat → List Char → Except DecodeError (List Char)
  | [], _, acc => .ok acc.reverse
  | b :: rest, pos, acc =>
      match f b with
      | some c => byteChars codec reason f rest (pos + 1) (c :: acc)
      | none => .error ⟨codec, pos, pos + 1, b, reason⟩

/-- The order a UTF-16 mark gives, with the bytes after it. -/
def mark16 : List UInt8 → Order × List UInt8 × Nat
  | 0xFF :: 0xFE :: rest => (.little, rest, 2)
  | 0xFE :: 0xFF :: rest => (.big, rest, 2)
  | bytes => (.little, bytes, 0)

/-- The order a UTF-32 mark gives, with the bytes after it. -/
def mark32 : List UInt8 → Order × List UInt8 × Nat
  | 0xFF :: 0xFE :: 0 :: 0 :: rest => (.little, rest, 4)
  | 0 :: 0 :: 0xFE :: 0xFF :: rest => (.big, rest, 4)
  | bytes => (.little, bytes, 0)

/-- A text read in an order that no mark gave: refused unless it is empty. -/
def withoutMark (bits : String) (skipped : Nat) (bytes : List UInt8) (cs : List Char) :
    Except ReadError (List Char) :=
  if skipped == 0 && !bytes.isEmpty then
    .error (.refused ("UTF-" ++ bits ++ " stream does not start with BOM"))
  else .ok cs

/-- Reads bytes by a scheme. -/
def Scheme.read (bytes : List UInt8) : Scheme → Except ReadError (List Char)
  | .utf8 skipMark =>
      match skipMark, bytes with
      | true, 0xEF :: 0xBB :: 0xBF :: rest => (utf8Chars rest 0 []).mapError .undecodable
      | _, _ => (utf8Chars bytes 0 []).mapError .undecodable
  | .utf16 (some o) => (utf16Chars o bytes 0 []).mapError .undecodable
  | .utf16 none => do
      let (o, rest, n) := mark16 bytes
      let cs ← (utf16Chars o rest n []).mapError .undecodable
      withoutMark "16" n bytes cs
  | .utf32 (some o) => (utf32Chars o bytes 0 []).mapError .undecodable
  | .utf32 none => do
      let (o, rest, n) := mark32 bytes
      let cs ← (utf32Chars o rest n []).mapError .undecodable
      withoutMark "32" n bytes cs
  | .ascii => (byteChars "ascii" "ordinal not in range(128)"
      (fun b => if b.toNat < 0x80 then some (Char.ofNat b.toNat) else none) bytes 0 []).mapError .undecodable
  | .latin1 => .ok (bytes.map fun b => Char.ofNat b.toNat)
  | .table chars => (byteChars "charmap" "character maps to <undefined>"
      (fun b => match chars[b.toNat]? with
        | some c => if c == undefinedMark then none else some c
        | none => none) bytes 0 []).mapError .undecodable
  | .multibyte t => (t.read bytes).mapError .undecodable
  | .hz => (Hz.read bytes).mapError .undecodable
  | .utf7 => (Utf7.read bytes).mapError .undecodable
  | .escaped false => (Escape.read bytes).mapError .undecodable
  | .escaped true => (Escape.readRaw bytes).mapError .undecodable
  | .punycode => (Punycode.decode bytes).map (·.map Text.charOfCode)
  | .idna => (Idna.decode bytes).map (·.map Text.charOfCode)
  | .iso2022 name => Iso2022.read name bytes
  | .undefined => .error (.refused "undefined encoding")
  | .binary => .ok []

/-- Reads bytes as text in the codec that a name stands for. -/
def decode (name : String) (bytes : List UInt8) : Except ReadError String :=
  match lookup name with
  | none => .error (.unknown name)
  | some codec =>
      match scheme codec with
      | .binary => .error (.notText name)
      | s =>
          (s.read bytes).map String.ofList

end Templating.Codec
