import Templating.Data.Value
import Templating.Decimal.Notation
import Templating.Text.Printable
import Templating.Text.Surrogate
import Templating.Failure

/-!
# Values shown as text

`Value.literal` writes a value as a literal: `None`, `True` and `False`; integers in decimal;
doubles in `Notation.display`; texts in quotes; byte strings as `b'…'`; timestamps as the call
that builds them; tuples in parentheses, a single item followed by a comma; lists in brackets;
sets in braces, the empty set as `set()`; objects in braces, each key and value separated by a
colon. Items are separated by a comma and a space. A list or object met again inside itself is
written `[...]` or `{...}`.

`Value.text` is the text a value stands for where text is wanted, as in a rendered slot: a text
is itself, a timestamp its text, and every other value its literal.

A text literal is quoted with `'`, or with `"` when the text holds a `'` and no `"`. Inside, the
quote and the backslash get a backslash, tab, line feed and carriage return are written `\t`,
`\n` and `\r`, and any other character that is not printable by its code in hexadecimal, a
carried surrogate by the surrogate's code. A byte
string is quoted the same way, every byte outside the printable ASCII range by its code.

An integer of more than `digitLimit` decimal digits is not written: writing it fails.
-/

namespace Templating

/-- The lowercase hexadecimal digits of `n`, at least `width` of them. -/
def hexDigits (width n : Nat) : List Char :=
  let ds := Nat.toDigits 16 n
  List.replicate (width - ds.length) '0' ++ ds

/-- One character inside a text literal quoted with `q`. -/
def quoteChar (q c : Char) : List Char :=
  if c = q ∨ c = '\\' then ['\\', c]
  else if c = '\t' then ['\\', 't']
  else if c = '\n' then ['\\', 'n']
  else if c = '\r' then ['\\', 'r']
  else if c.toNat < 0x20 ∨ c.toNat = 0x7f then '\\' :: 'x' :: hexDigits 2 c.toNat
  else if c.toNat < 0x7f ∨ Text.isPrintable c then [c]
  else if c.toNat ≤ 0xff then '\\' :: 'x' :: hexDigits 2 c.toNat
  else if Text.codeOf c ≤ 0xffff then '\\' :: 'u' :: hexDigits 4 (Text.codeOf c)
  else '\\' :: 'U' :: hexDigits 8 c.toNat

/-- A text written as a literal. -/
def quoteText (s : String) : String :=
  let cs := s.toList
  let q := if cs.contains '\'' && !cs.contains '"' then '"' else '\''
  String.ofList (q :: cs.flatMap (quoteChar q) ++ [q])

/-- One byte inside a byte string literal quoted with `q`. -/
def quoteByte (q : Char) (b : UInt8) : List Char :=
  let c := Char.ofNat b.toNat
  if c = q ∨ c = '\\' then ['\\', c]
  else if c = '\t' then ['\\', 't']
  else if c = '\n' then ['\\', 'n']
  else if c = '\r' then ['\\', 'r']
  else if b.toNat < 0x20 ∨ b.toNat ≥ 0x7f then '\\' :: 'x' :: hexDigits 2 b.toNat
  else [c]

/-- A byte string written as a literal. -/
def quoteBytes (bs : List UInt8) : String :=
  let has := fun (c : Char) => bs.contains c.toNat.toUInt8
  let q := if has '\'' && !has '"' then '"' else '\''
  String.ofList ('b' :: q :: bs.flatMap (quoteByte q) ++ [q])

/-- Items separated by a comma and a space. -/
def commaList (items : List String) : String := ", ".intercalate items

/-- The most decimal digits an integer may have to be written or read. -/
def digitLimit : Nat := 4300

/-- The failure of writing an integer of too many digits. -/
def tooManyDigits : Failure :=
  Failure.badValue ("Exceeds the limit (4300 digits) for integer string conversion; " ++
    "use sys.set_int_max_str_digits() to increase the limit")

/-- An integer in decimal; fails past the digit limit. -/
def intText (n : Int) : Except Failure String :=
  let ds := Nat.toDigits 10 n.natAbs
  if ds.length > digitLimit then .error tooManyDigits
  else .ok (String.ofList (if n < 0 then '-' :: ds else ds))

/-- The failure of a walk that went deeper than it may. -/
def tooDeep (what : String) : Failure :=
  Failure.uncaught "RecursionError" ("maximum recursion depth exceeded" ++ what)

namespace Value

mutual

/-- The size of a value, a bound for walks over it. -/
def weight : Value → Nat
  | tuple xs | list xs | set xs => 1 + weightItems xs
  | obj kvs => 1 + weightEntries kvs
  | _ => 1

/-- The total size of values. -/
def weightItems : List Value → Nat
  | [] => 0
  | x :: xs => weight x + weightItems xs

/-- The total size of entries. -/
def weightEntries : List (Value × Value) → Nat
  | [] => 0
  | (k, v) :: r => weight k + weight v + weightEntries r

end

/-- A bound on the depth of any walk over a value and the heap, that enters no object twice on
one path. -/
def reach (h : Heap) (v : Value) : Nat := h.foldl (fun n x => n + weight x) (weight v) + 1

/-- The literal of a value at a depth bound; `inside` are the objects the walk is inside of. -/
def literalAt (h : Heap) : Nat → List Nat → Value → Except Failure String
  | 0, _, _ => .error (tooDeep " while getting the repr of an object")
  | fuel + 1, inside, v =>
      match v with
      | null => .ok "None"
      | bool true => .ok "True"
      | bool false => .ok "False"
      | int n => intText n
      | float x => .ok (Decimal.Notation.display.write x)
      | str s => .ok (quoteText s)
      | bytes bs => .ok (quoteBytes bs)
      | stamp t => .ok t.literal
      | tuple [x] => do pure ("(" ++ (← literalAt h fuel inside x) ++ ",)")
      | tuple xs => do pure ("(" ++ commaList (← xs.mapM (literalAt h fuel inside)) ++ ")")
      | list xs => do pure ("[" ++ commaList (← xs.mapM (literalAt h fuel inside)) ++ "]")
      | set [] => .ok "set()"
      | set xs => do pure ("\x7b" ++ commaList (← xs.mapM (literalAt h fuel inside)) ++ "\x7d")
      | obj kvs => do
          let items ← kvs.mapM fun (k, w) => do
            pure ((← literalAt h fuel inside k) ++ ": " ++ (← literalAt h fuel inside w))
          pure ("\x7b" ++ commaList items ++ "\x7d")
      | ref i =>
          if inside.contains i then
            match h.getD i null with
            | list _ => .ok "[...]"
            | _ => .ok "\x7b...\x7d"
          else literalAt h fuel (i :: inside) (h.getD i null)

/-- A value written as a literal, its references followed through the heap. -/
def literal (h : Heap) (v : Value) : Except Failure String := literalAt h (reach h v) [] v

/-- The text a value stands for: a text is itself, a timestamp its text, any other value its
literal. -/
def text (h : Heap) (v : Value) : Except Failure String :=
  match v.deref h with
  | str s => .ok s
  | stamp t => .ok t.text
  | _ => v.literal h

end Value

end Templating
