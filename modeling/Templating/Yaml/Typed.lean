import Templating.Data.Display
import Templating.Data.Base64
import Templating.Text.Real
import Templating.Text.Case
import Templating.Yaml.Mark
import Templating.Codec.Error

/-!
# Values of typed YAML scalars

A scalar with a standard tag stands for a value read off its text:

* `int`: underscores dropped and a sign taken off, the text `0` is zero, `0b…` is binary, `0x…`
  hexadecimal, any other text with a leading zero octal, a text with colons base 60 of decimal
  parts, and any other text decimal, each read as `Text.readIntIn` reads;
* `float`: underscores dropped, in lower case and with a sign taken off, `.inf` and `.nan`, base
  60 of decimal parts (at most 174 of them, as the weight of a further part is no double), or a
  double as `Text.readFloat?` reads;
* `bool`: `yes`, `true` and `on` are true, `no`, `false` and `off` false, in any case;
* `null`: null whatever the text;
* `binary`: the bytes the text gives in base 64;
* `timestamp`: a date `YYYY-M-D`, optionally with a time and a zone, which must exist.

An empty text as an integer or a double, a text that reads as no number, an unknown truth value,
a text that is no timestamp and a date or time that does not exist are bad values, each with the
message of its cause. A binary text that is not ASCII or not base 64 fails the document, with the
reason and the place of the node.

The patterns that must reach the end of a text may stop before one final line feed.
-/

namespace Templating.Yaml

/-- Why loading a YAML text fails: the text is refused, or building a value met a fault. -/
inductive LoadError where
  | malformed (r : Refusal)
  | fault (f : Failure)
  deriving Inhabited

/-- A fault met while building a value. -/
def raise {α : Type} (kind message : String) : Except LoadError α := .error (.fault (Failure.uncaught kind message))

/-- The fault of reading a character of an empty text. -/
def emptyIndex {α : Type} : Except LoadError α := raise "IndexError" "string index out of range"

/-- A literal of at most 200 characters. -/
def shortLiteral (s : String) : String := String.ofList ((quoteText s).toList.take 200)

/-- The integer a text stands for in a base, as a building step. -/
def intIn (base : Nat) (s : String) : Except LoadError Int :=
  match Text.readIntIn base s with
  | .ok n => .ok n
  | .error .invalid =>
      raise "ValueError" ("invalid literal for int() with base " ++ toString base ++ ": " ++
        shortLiteral s)
  | .error (.tooManyDigits n) =>
      raise "ValueError" ("Exceeds the limit (4300 digits) for integer string conversion: " ++
        "value has " ++ toString n ++ " digits; use sys.set_int_max_str_digits() to increase the limit")

/-- The double a text stands for, as a building step. -/
def floatOf (s : String) : Except LoadError Float :=
  match Text.readFloat? s with
  | some x => .ok x
  | none => raise "ValueError" ("could not convert string to float: " ++ quoteText s)

/-- Sums base 60 digits, the last the least. -/
def sexagesimal {α : Type} [Add α] [Mul α] (ofNat : Nat → α) (zero : α) (ds : List α) : α :=
  (ds.reverse.foldl (fun (acc : α × Nat) d => (acc.1 + d * ofNat acc.2, acc.2 * 60)) (zero, 1)).1

/-- Splits off a sign: whether it is negative, and the rest. -/
def signOf (cs : List Char) : Bool × List Char :=
  match cs with
  | '-' :: r => (true, r)
  | '+' :: r => (false, r)
  | r => (false, r)

/-- The integer of a scalar of type int. -/
def intValue (text : String) : Except LoadError Int := do
  let v := text.toList.filter (· != '_')
  if v.isEmpty then emptyIndex
  let (negative, v) := signOf v
  let sign : Int := if negative then -1 else 1
  match v with
  | [] => emptyIndex
  | ['0'] => pure 0
  | '0' :: 'b' :: r => do pure (sign * (← intIn 2 (String.ofList r)))
  | '0' :: 'x' :: r => do pure (sign * (← intIn 16 (String.ofList r)))
  | '0' :: _ => do pure (sign * (← intIn 8 (String.ofList v)))
  | _ =>
      if v.contains ':' then do
        let ds ← (v.splitOn ':').mapM fun part => intIn 10 (String.ofList part)
        pure (sign * sexagesimal (fun n => (n : Int)) 0 ds)
      else do pure (sign * (← intIn 10 (String.ofList v)))

/-- The double of a scalar of type float. -/
def floatValue (text : String) : Except LoadError Float := do
  let v := (Text.lower (String.ofList (text.toList.filter (· != '_')))).toList
  if v.isEmpty then emptyIndex
  let (negative, v) := signOf v
  let sign : Float := if negative then -1.0 else 1.0
  if v == ".inf".toList then pure (sign * (1.0 / 0.0))
  else if v == ".nan".toList then pure (0.0 / 0.0)
  else if v.contains ':' then do
    let ds ← (v.splitOn ':').mapM fun part => floatOf (String.ofList part)
    -- the weight of a digit is an exact power of 60, and 60 ^ 174 is past the largest double
    if ds.length > 174 then raise "OverflowError" "int too large to convert to float"
    pure (sign * sexagesimal (fun n => Float.ofNat n) 0.0 ds)
  else do pure (sign * (← floatOf (String.ofList v)))

/-- Whether the text of a scalar of type float stands for the one shared not-a-number, `.nan`
in any case, with underscores and a sign; any other not-a-number is made anew. -/
def sharedNaN (text : String) : Bool :=
  (signOf (Text.lower (String.ofList (text.toList.filter (· != '_')))).toList).2 == ".nan".toList

/-- The truth value of a scalar of type bool. -/
def boolValue (text : String) : Except LoadError Bool :=
  let low := Text.lower text
  match low with
  | "yes" | "true" | "on" => .ok true
  | "no" | "false" | "off" => .ok false
  | _ => raise "KeyError" (quoteText low)

/-- The first run of characters past ASCII in a text, which ASCII refuses to write. -/
def asciiRefusal? (s : String) : Option Codec.EncodeError :=
  let codes := Text.codesOf s
  (codes.findIdx? (· ≥ 128)).map fun i =>
    let run := ((codes.drop i).takeWhile (· ≥ 128)).length
    ⟨"ascii", i, i + run, codes.getD i 0, "ordinal not in range(128)"⟩

/-- The bytes of a scalar of type binary whose node starts at a place. -/
def binaryValue (text : String) (m : Mark) : Except LoadError (List UInt8) :=
  let refuse := fun (why : String) => Except.error (LoadError.malformed (.problem ⟨none, none, why, m⟩))
  match asciiRefusal? text with
  | some e => refuse ("failed to convert base64 data into ascii: " ++ e.message)
  | none =>
      match Base64.decode text with
      | .ok bs => .ok bs
      | .error why => refuse ("failed to decode base64 data: " ++ why)

/-- The fields of a timestamp's text, as written. -/
structure StampText where
  year : List Char
  month : List Char
  day : List Char
  /-- Hour, minute and second. -/
  time : Option (List Char × List Char × List Char)
  fraction : List Char := []
  /-- `Z`, or a sign with the hours and the minutes of the zone. -/
  zone : Option (Option (Char × List Char × List Char)) := none

/-- Takes one or two ASCII digits. -/
def oneOrTwo (cs : List Char) : Option (List Char × List Char) :=
  let ds := (Text.asciiDigits cs).1.take 2
  if ds.isEmpty then none else some (ds, cs.drop ds.length)

/-- Takes exactly `n` ASCII digits. -/
def exactly (n : Nat) (cs : List Char) : Option (List Char × List Char) :=
  let ds := cs.take n
  if ds.length == n && ds.all (fun c => '0' ≤ c ∧ c ≤ '9') then some (ds, cs.drop n) else none

/-- Whether a text is at its end, or before one final line feed. -/
def atEnd (cs : List Char) : Bool := cs.isEmpty || cs == ['\n']

/-- Reads the zone at the end of a timestamp's text. -/
def zoneOf (cs : List Char) : Option (Option (Option (Char × List Char × List Char))) :=
  let cs := cs.dropWhile fun c => c == ' ' || c == '\t'
  match cs with
  | 'Z' :: r => if atEnd r then some (some none) else none
  | s :: r =>
      if s == '-' || s == '+' then do
        let (h, r) ← oneOrTwo r
        match r with
        | ':' :: r =>
            let (m, r) ← exactly 2 r
            if atEnd r then some (some (some (s, h, m))) else none
        | r => if atEnd r then some (some (some (s, h, []))) else none
      else none
  | [] => none

/-- Reads the fields of a timestamp's text: `YYYY-M-D`, then optionally `T`, `t` or blanks,
`H:MM:SS`, a fraction after a point, and a zone after blanks. -/
def stampText (cs : List Char) : Option StampText := do
  let (y, r) ← exactly 4 cs
  let r ← match r with
    | '-' :: r => some r
    | _ => none
  let (mo, r) ← oneOrTwo r
  let r ← match r with
    | '-' :: r => some r
    | _ => none
  let (d, r) ← oneOrTwo r
  if atEnd r then some ⟨y, mo, d, none, [], none⟩
  else
    let r ← match r with
      | 'T' :: r | 't' :: r => some r
      | c :: r => if c == ' ' || c == '\t' then some (r.dropWhile fun c => c == ' ' || c == '\t') else none
      | [] => none
    let (hh, r) ← oneOrTwo r
    let r ← match r with
      | ':' :: r => some r
      | _ => none
    let (mi, r) ← exactly 2 r
    let r ← match r with
      | ':' :: r => some r
      | _ => none
    let (ss, r) ← exactly 2 r
    let (frac, r) := match r with
      | '.' :: r => Text.asciiDigits r
      | r => ([], r)
    if atEnd r then some ⟨y, mo, d, some (hh, mi, ss), frac, none⟩
    else do
      let z ← zoneOf r
      some ⟨y, mo, d, some (hh, mi, ss), frac, z⟩

/-- A span of seconds written as the call that builds it, days and seconds apart. -/
def spanLiteral (secs : Int) : String :=
  let days := secs.fdiv 86400
  let rest := secs.fmod 86400
  let fields := (if days != 0 then ["days=" ++ toString days] else []) ++
    (if rest != 0 then ["seconds=" ++ toString rest] else [])
  "datetime.timedelta(" ++ (if fields.isEmpty then "0" else ", ".intercalate fields) ++ ")"

/-- Checks that a date exists. -/
def checkDate (y m d : Nat) : Except LoadError Unit :=
  if y < 1 || y > 9999 then raise "ValueError" ("year " ++ toString y ++ " is out of range")
  else if m < 1 || m > 12 then raise "ValueError" "month must be in 1..12"
  else if d < 1 || d > Stamp.monthDays y m then raise "ValueError" "day is out of range for month"
  else .ok ()

/-- The timestamp of a scalar of type timestamp. -/
def stampValue (text : String) : Except LoadError Stamp := do
  let some t := stampText text.toList
    | raise "AttributeError" "\x27NoneType\x27 object has no attribute \x27groupdict\x27"
  let y := Text.asciiValue t.year
  let mo := Text.asciiValue t.month
  let d := Text.asciiValue t.day
  match t.time with
  | none =>
      checkDate y mo d
      pure ⟨y, mo, d, none⟩
  | some (hh, mi, ss) =>
      let micro := Text.asciiValue ((t.fraction.take 6) ++ List.replicate (6 - (t.fraction.take 6).length) '0')
      let offset ← match t.zone with
        | none => pure none
        | some none => pure (some 0)
        | some (some (s, h, m)) =>
            let mins : Int := (Text.asciiValue h : Int) * 60 + Text.asciiValue m
            let mins := if s == '-' then -mins else mins
            if mins.natAbs ≥ 24 * 60 then
              raise "ValueError" ("offset must be a timedelta strictly between " ++
                "-timedelta(hours=24) and timedelta(hours=24), not " ++ spanLiteral (mins * 60) ++ ".")
            else pure (some mins)
      checkDate y mo d
      let (h, m, s) := (Text.asciiValue hh, Text.asciiValue mi, Text.asciiValue ss)
      if h > 23 then raise "ValueError" "hour must be in 0..23"
      if m > 59 then raise "ValueError" "minute must be in 0..59"
      if s > 59 then raise "ValueError" "second must be in 0..59"
      pure ⟨y, mo, d, some ⟨h, m, s, micro, offset⟩⟩

end Templating.Yaml
