import Templating.Data.Display
import Templating.Text.Surrogate

/-!
# Reading JSON text

The reader takes standard JSON and the words `NaN`, `Infinity` and `-Infinity`. Blanks are the
space, tab, line feed and carriage return. A number is an integer unless it has a fraction or an
exponent, and then the double nearest to it. Texts may not hold raw control characters; `\u`
escapes of a surrogate pair stand for one character. An object that names a key twice keeps the
first place of the key and the last value. Nothing but blanks may follow the value.

Reading fails with a fault, rather than finding no JSON, on an integer of more than `digitLimit`
digits and on more than `depthLimit` lists and objects open at once.

## Implementation notes

The reader is a recursive descent with a fuel argument that bounds the depth of its calls;
`Value.ofJson?` gives it more fuel than the text has characters, and every call reads at least
one character, so the fuel never runs out on a text that can be read.
-/

namespace Templating.Json

/-- The blanks between JSON tokens. -/
def isBlank (c : Char) : Bool := c == ' ' || c == '\t' || c == '\n' || c == '\r'

/-- The text without its leading blanks. -/
def skip (cs : List Char) : List Char := cs.dropWhile isBlank

/-- The value of a hexadecimal digit. -/
def hexValue? (c : Char) : Option Nat :=
  if '0' ≤ c ∧ c ≤ '9' then some (c.toNat - '0'.toNat)
  else if 'a' ≤ c ∧ c ≤ 'f' then some (c.toNat - 'a'.toNat + 10)
  else if 'A' ≤ c ∧ c ≤ 'F' then some (c.toNat - 'A'.toNat + 10)
  else none

/-- Reads four hexadecimal digits. -/
def hex4 : List Char → Option (Nat × List Char)
  | a :: b :: c :: d :: r => do
      let a ← hexValue? a
      let b ← hexValue? b
      let c ← hexValue? c
      let d ← hexValue? d
      pure (((a * 16 + b) * 16 + c) * 16 + d, r)
  | _ => none

/-- Reads the rest of a `\u` escape whose four digits gave `u`: a high surrogate followed by an
escaped low one stands for one character together with it. -/
def unicodeEscape (u : Nat) (r : List Char) : Char × List Char :=
  if 0xD800 ≤ u ∧ u ≤ 0xDBFF then
    match r with
    | '\\' :: 'u' :: r' =>
        match hex4 r' with
        | some (v, r'') =>
            if 0xDC00 ≤ v ∧ v ≤ 0xDFFF then
              (Char.ofNat (0x10000 + (u - 0xD800) * 0x400 + (v - 0xDC00)), r'')
            else (Text.charOfCode u, r)
        | none => (Text.charOfCode u, r)
    | _ => (Text.charOfCode u, r)
  else (Text.charOfCode u, r)

/-- The character a one-letter escape stands for. -/
def simpleEscape? : Char → Option Char
  | '"' => some '"'
  | '\\' => some '\\'
  | '/' => some '/'
  | 'b' => some (Char.ofNat 8)
  | 'f' => some (Char.ofNat 12)
  | 'n' => some '\n'
  | 'r' => some '\r'
  | 't' => some '\t'
  | _ => none

/-- Reads the characters of a text up to its closing quote. -/
def readString : Nat → List Char → Option (List Char × List Char)
  | 0, _ => none
  | _ + 1, [] => none
  | _ + 1, '"' :: r => some ([], r)
  | fuel + 1, '\\' :: 'u' :: r => do
      let (u, r) ← hex4 r
      let (c, r) := unicodeEscape u r
      let (s, r) ← readString fuel r
      pure (c :: s, r)
  | fuel + 1, '\\' :: e :: r => do
      let c ← simpleEscape? e
      let (s, r) ← readString fuel r
      pure (c :: s, r)
  | fuel + 1, c :: r =>
      if c.toNat < 0x20 then none
      else (readString fuel r).map fun (s, r) => (c :: s, r)

/-- The ASCII digits at the start of a text, and the text after them. -/
def digitSpan (cs : List Char) : List Char × List Char :=
  (cs.takeWhile Char.isDigit, cs.dropWhile Char.isDigit)

/-- The natural number written by ASCII digits. -/
def digitsValue (ds : List Char) : Nat := ds.foldl (fun n d => 10 * n + (d.toNat - '0'.toNat)) 0

/-- Why reading JSON stops: the text is not JSON, or reading it met a fault. -/
inductive ReadStop where
  | malformed
  | fault (f : Failure)

/-- A step that fails without a reason fails as text that is not JSON. -/
instance : MonadLift Option (Except ReadStop) where
  monadLift
    | some a => .ok a
    | none => .error .malformed

/-- How many lists and objects may be open at once. -/
def depthLimit : Nat := 988

/-- The fault of opening one list or object too many. -/
def tooDeeplyNested (what : String) : ReadStop :=
  .fault (tooDeep (" while decoding a JSON " ++ what ++ " from a unicode string"))

/-- Reads a number: a sign, an integer part without leading zeros, and a fraction and an
exponent that are taken only when digits follow their mark. An integer of more than
`digitLimit` digits is a fault. -/
def readNumber (cs : List Char) : Except ReadStop (Value × List Char) :=
  let (negative, r) := match cs with
    | '-' :: r => (true, r)
    | r => (false, r)
  let whole : Option (List Char × List Char) := match r with
    | '0' :: r => some (['0'], r)
    | d :: r => if '1' ≤ d ∧ d ≤ '9' then some (d :: (digitSpan r).1, (digitSpan r).2) else none
    | [] => none
  match whole with
  | none => .error .malformed
  | some (w, r) =>
      let (frac, r) : Option (List Char) × List Char := match r with
        | '.' :: d :: r' => if d.isDigit then (some (d :: (digitSpan r').1), (digitSpan r').2) else (none, r)
        | _ => (none, r)
      let (ex, r) : Option Int × List Char := match r with
        | e :: r' =>
            if e = 'e' ∨ e = 'E' then
              let (neg, r'') := match r' with
                | '-' :: s => (true, s)
                | '+' :: s => (false, s)
                | s => (false, s)
              match r'' with
              | d :: _ =>
                  if d.isDigit then
                    let (ds, rest) := digitSpan r''
                    let n : Int := digitsValue ds
                    (some (if neg then -n else n), rest)
                  else (none, r)
              | [] => (none, r)
            else (none, r)
        | [] => (none, r)
      match frac, ex with
      | none, none =>
          if w.length > digitLimit then
            .error (.fault (Failure.badValue ("Exceeds the limit (4300 digits) for integer string " ++
              "conversion: value has " ++ toString w.length ++ " digits; use " ++
              "sys.set_int_max_str_digits() to increase the limit")))
          else
            let n : Int := digitsValue w
            .ok (.int (if negative then -n else n), r)
      | _, _ =>
          let fd := frac.getD []
          let q : Int := ex.getD 0 - fd.length
          .ok (.float (Decimal.ofDecimal negative (digitsValue (w ++ fd)) q), r)

mutual

/-- Reads one value after optional blanks, `depth` lists and objects being open. -/
def readValue : Nat → Nat → List Char → Except ReadStop (Value × List Char)
  | 0, _, _ => .error .malformed
  | fuel + 1, depth, cs =>
      match skip cs with
      | '\x7b' :: r =>
          if depth ≥ depthLimit then .error (tooDeeplyNested "object")
          else match skip r with
            | '\x7d' :: r' => .ok (.obj [], r')
            | r' => readEntries fuel (depth + 1) [] r'
      | '[' :: r =>
          if depth ≥ depthLimit then .error (tooDeeplyNested "array")
          else match skip r with
            | ']' :: r' => .ok (.list [], r')
            | r' => readItems fuel (depth + 1) [] r'
      | '"' :: r => do
          let (s, r) ← readString fuel r
          pure (.str (String.ofList s), r)
      | 'n' :: 'u' :: 'l' :: 'l' :: r => .ok (.null, r)
      | 't' :: 'r' :: 'u' :: 'e' :: r => .ok (.bool true, r)
      | 'f' :: 'a' :: 'l' :: 's' :: 'e' :: r => .ok (.bool false, r)
      | 'N' :: 'a' :: 'N' :: r => .ok (.float (0.0 / 0.0), r)
      | 'I' :: 'n' :: 'f' :: 'i' :: 'n' :: 'i' :: 't' :: 'y' :: r => .ok (.float (1.0 / 0.0), r)
      | '-' :: 'I' :: 'n' :: 'f' :: 'i' :: 'n' :: 'i' :: 't' :: 'y' :: r =>
          .ok (.float (-1.0 / 0.0), r)
      | r => readNumber r

/-- Reads the items of a list after its first bracket, `acc` holding those read, in reverse. -/
def readItems : Nat → Nat → List Value → List Char → Except ReadStop (Value × List Char)
  | 0, _, _, _ => .error .malformed
  | fuel + 1, depth, acc, cs => do
      let (v, r) ← readValue fuel depth cs
      match skip r with
      | ',' :: r' => readItems fuel depth (v :: acc) r'
      | ']' :: r' => pure (.list (v :: acc).reverse, r')
      | _ => throw .malformed

/-- Reads the entries of an object after its first brace, `acc` holding those read. -/
def readEntries : Nat → Nat → Entries → List Char → Except ReadStop (Value × List Char)
  | 0, _, _, _ => .error .malformed
  | fuel + 1, depth, acc, cs =>
      match skip cs with
      | '"' :: r => do
          let (k, r) ← readString fuel r
          match skip r with
          | ':' :: r => do
              let (v, r) ← readValue fuel depth r
              let acc := Entries.put (.str (String.ofList k)) v acc
              match skip r with
              | ',' :: r' => readEntries fuel depth acc r'
              | '\x7d' :: r' => pure (.obj acc, r')
              | _ => throw .malformed
          | _ => throw .malformed
      | _ => .error .malformed

end

end Templating.Json

namespace Templating.Value

/-- The value a JSON text holds: `none` when the text is not JSON, a failure when reading it
met a fault. -/
def readJson (s : String) : Except Failure (Option Value) :=
  let cs := s.toList
  match Json.readValue (2 * cs.length + 2) 0 cs with
  | .ok (v, r) => .ok (if (Json.skip r).isEmpty then some v else none)
  | .error .malformed => .ok none
  | .error (.fault f) => .error f

/-- The value a JSON text holds, `none` when the text is not JSON or reading it met a fault. -/
def ofJson? (s : String) : Option Value :=
  match readJson s with
  | .ok v => v
  | .error _ => none

end Templating.Value
