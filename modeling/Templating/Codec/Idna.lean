import Templating.Codec.Punycode
import Templating.Codec.Normal
import Templating.Codec.Stringprep

/-!
# Internationalized domain names

A name is read as ASCII and split at its dots into labels; an empty last label leaves a dot at
the end. A label that starts with `xn--` is the Punycode of its characters: they are read, and
written back as a label must be, and the two must agree, case aside.

Writing a label back keeps it when it is ASCII; otherwise it is prepared (characters mapped to
nothing dropped, case folded, composed, and checked for characters a name may not hold and for
the direction of its writing) and, if it is still not ASCII, written as `xn--` and its Punycode.
A label must have from 1 to 63 characters.
-/

namespace Templating.Codec.Idna

open Stringprep

/-- Whether a code point lies in one of the runs. -/
def inRuns (runs : List (Nat × Nat)) (c : Nat) : Bool := runs.any fun (lo, hi) => lo ≤ c && c ≤ hi

/-- Hexadecimal digits of a number, padded with zeros to a width. -/
def hexPadded (width n : Nat) : String :=
  let ds := Nat.toDigits 16 n
  String.ofList (List.replicate (width - ds.length) '0' ++ ds)

/-- A code point quoted as a one-character text is shown: itself when it can be shown, else its
escape. -/
def quoteChar (n : Nat) : String :=
  if inRuns printableProhibited n then "'" ++ String.singleton (Char.ofNat n) ++ "'"
  else if n < 0x100 then "'\\x" ++ hexPadded 2 n ++ "'"
  else if n < 0x10000 then "'\\u" ++ hexPadded 4 n ++ "'"
  else "'\\U" ++ hexPadded 8 n ++ "'"

/-- ASCII bytes quoted as bytes are shown: in single quotes, or in double quotes when they hold a
single quote and no double one. -/
def quoteBytes (cs : List Char) : String :=
  let q := if cs.contains (Char.ofNat 39) && !cs.contains '"' then '"' else Char.ofNat 39
  let shown := fun (c : Char) =>
    if c == q || c == '\\' then String.ofList ['\\', c]
    else if c == '\t' then "\\t"
    else if c == '\n' then "\\n"
    else if c == '\r' then "\\r"
    else if c.toNat < 0x20 || c.toNat ≥ 0x7F then "\\x" ++ hexPadded 2 c.toNat
    else String.singleton c
  "b" ++ String.singleton q ++ String.join (cs.map shown) ++ String.singleton q

/-- The refusal of a label. -/
def refuse (message : String) : ReadError := .refused message

/-- A label prepared for comparison. -/
def nameprep (label : List Nat) : Except ReadError (List Nat) := do
  let mapped := label.flatMap fun c =>
    if inRuns dropped c then [] else (folding.lookup c).getD [c]
  let label := Normal.nfkc mapped
  match label.find? (inRuns prohibited) with
  | some c => throw (refuse ("Invalid character " ++ quoteChar c))
  | none => pure ()
  let rtl := label.map (inRuns rightToLeft)
  if rtl.any id then
    if label.any (inRuns leftToRight) then
      throw (refuse "Violation of BIDI requirement 2")
    if !(rtl.headD false) || !(rtl.getLastD false) then
      throw (refuse "Violation of BIDI requirement 3")
  pure label

/-- Whether every code point is ASCII. -/
def isAscii (cs : List Nat) : Bool := cs.all (· < 0x80)

/-- A label of the right length. -/
def sized (label : List Char) : Except ReadError (List Char) :=
  if 0 < label.length && label.length < 64 then .ok label
  else .error (refuse "label empty or too long")

/-- The prefix of a label in Punycode. -/
def aceLead : List Char := "xn--".toList

/-- A label written as a name holds it. -/
def toAscii (label : List Nat) : Except ReadError (List Char) := do
  if isAscii label then sized (label.map Char.ofNat)
  else
    let label ← nameprep label
    if isAscii label then sized (label.map Char.ofNat)
    else if (aceLead.map Char.toNat).isPrefixOf label then
      throw (refuse "Label starts with ACE prefix")
    else sized (aceLead ++ Punycode.encode label)

/-- The lower-case form of an ASCII character. -/
def lower (c : Char) : Char := if 'A' ≤ c ∧ c ≤ 'Z' then Char.ofNat (c.toNat + 32) else c

/-- A failure of the Punycode inside a label, as reading the label reports it. -/
def nested : ReadError → ReadError
  | .refused m => .refused ("decoding with 'punycode' codec failed (UnicodeError: " ++ m ++ ")")
  | e => e

/-- The code points of an ASCII label. -/
def toUnicode (label : List Char) : Except ReadError (List Nat) := do
  if !aceLead.isPrefixOf label then pure (label.map Char.toNat)
  else
    let result ← (Punycode.decode ((label.drop 4).map fun c => c.toNat.toUInt8)).mapError nested
    let back ← toAscii result
    if label.map lower != back then
      throw (refuse ("('IDNA does not round-trip', " ++ quoteBytes label ++ ", " ++ quoteBytes back ++ ")"))
    pure result

/-- Reads a name as code points. -/
def decode (bytes : List UInt8) : Except ReadError (List Nat) := do
  if bytes.isEmpty then return []
  let text ← Punycode.asciiChars bytes
  let labels := text.splitOn '.'
  let (labels, trailing) := if labels.getLastD [] == [] then (labels.dropLast, [0x2E]) else (labels, [])
  let shown ← labels.mapM toUnicode
  pure (List.intercalate [0x2E] shown ++ trailing)

end Templating.Codec.Idna
