import Templating.Data.Display

/-!
# Writing values as JSON

Values are written as JSON text with object keys in their order. Texts keep every character
that JSON allows unescaped; only the quote, the backslash and the control characters below
`0x20` are escaped. Doubles are written in `Notation.json`, so `5.0` keeps its point and the
values that are not finite are written `NaN`, `Infinity` and `-Infinity`. Tuples are written as
arrays. A byte string, a timestamp or a set, which JSON has no form for, is written as the JSON
string of its text (`Value.text`).

A key is written as a string: a text as itself, a double as in `Notation.json`, truth values and
null as in JSON, an integer in decimal. A key of any other kind fails, and so does an object or
list met again inside itself.

The compact layout separates items by `, ` and keys from values by `: `. The indented layout
puts each item on a line of its own, indented by the given width for each level of nesting; an
empty list or object stays `[]` or `{}`.
-/

namespace Templating.Json

/-- The choices a JSON writer makes: the indentation, and how it names the kind of a key it
cannot write. -/
structure Style where
  indent : Option Nat
  kindName : Value → String

/-- The name of a value's kind, as a module would spell it. -/
def fullKindName : Value → String
  | .null => "NoneType"
  | .bool _ => "bool"
  | .int _ => "int"
  | .float _ => "float"
  | .str _ => "str"
  | .bytes _ => "bytes"
  | .stamp t => if t.clock.isSome then "datetime.datetime" else "datetime.date"
  | .tuple _ => "tuple"
  | .list _ => "list"
  | .set _ => "set"
  | .obj _ => "dict"
  | .ref _ => "dict"

/-- The short name of a value's kind. -/
def shortKindName (v : Value) : String :=
  match v with
  | .stamp t => if t.clock.isSome then "datetime" else "date"
  | v => fullKindName v

/-- The compact layout, which names kinds in full. -/
def compact : Style := ⟨none, fullKindName⟩

/-- The layout indented by two spaces, which names kinds briefly. -/
def indented : Style := ⟨some 2, shortKindName⟩

/-- One character of a JSON text. -/
def escapeChar (c : Char) : List Char :=
  if c = '"' then ['\\', '"']
  else if c = '\\' then ['\\', '\\']
  else if c = '\n' then ['\\', 'n']
  else if c = '\r' then ['\\', 'r']
  else if c = '\t' then ['\\', 't']
  else if c.toNat = 8 then ['\\', 'b']
  else if c.toNat = 12 then ['\\', 'f']
  else if c.toNat < 0x20 then '\\' :: 'u' :: hexDigits 4 c.toNat
  else [c]

/-- A text written as a JSON string. -/
def quote (s : String) : String := String.ofList ('"' :: s.toList.flatMap escapeChar ++ ['"'])

/-- `n` spaces. -/
def spaces (n : Nat) : String := String.ofList (List.replicate n ' ')

/-- The items of a list or object between their brackets, at a nesting level. -/
def layout (indent : Option Nat) (level : Nat) (opening closing : String) :
    List String → String
  | [] => opening ++ closing
  | items => match indent with
    | none => opening ++ ", ".intercalate items ++ closing
    | some w =>
        opening ++ "\n" ++ ",\n".intercalate (items.map (spaces (w * (level + 1)) ++ ·)) ++ "\n" ++
          spaces (w * level) ++ closing

/-- The failure of a key of a kind that JSON keys cannot hold. -/
def badKey (st : Style) (k : Value) : Failure :=
  Failure.uncaught "TypeError" ("keys must be str, int, float, bool or None, not " ++ st.kindName k)

/-- A key written as the text of a JSON key. -/
def keyText (st : Style) (k : Value) : Except Failure String :=
  match k with
  | .str s => .ok s
  | .float x => .ok (Decimal.Notation.json.write x)
  | .bool true => .ok "true"
  | .bool false => .ok "false"
  | .null => .ok "null"
  | .int n => intText n
  | k => .error (badKey st k)

/-- The failure of an object met inside itself. -/
def circular : Failure := Failure.badValue "Circular reference detected"

/-- A value written as JSON at a nesting level and a depth bound; `inside` are the objects the
writer is inside of. -/
def writeAt (st : Style) (h : Heap) : Nat → List Nat → Nat → Value → Except Failure String
  | 0, _, _, _ => .error (tooDeep " while encoding a JSON object")
  | fuel + 1, inside, level, v =>
      match v with
      | .null => .ok "null"
      | .bool true => .ok "true"
      | .bool false => .ok "false"
      | .int n => intText n
      | .float x => .ok (Decimal.Notation.json.write x)
      | .str s => .ok (quote s)
      | .tuple xs | .list xs => do
          pure (layout st.indent level "[" "]" (← xs.mapM (writeAt st h fuel inside (level + 1))))
      | .obj kvs => do
          let items ← kvs.mapM fun (k, w) => do
            let key ← keyText st (k.deref h)
            pure (quote key ++ ": " ++ (← writeAt st h fuel inside (level + 1) w))
          pure (layout st.indent level "\x7b" "\x7d" items)
      | .ref i =>
          if inside.contains i then .error circular
          else writeAt st h fuel (i :: inside) level (h.getD i .null)
      | v => do pure (quote (← v.text h))

/-- A value written as JSON in a style, its references followed through the heap. -/
def write (st : Style) (h : Heap) (v : Value) : Except Failure String :=
  writeAt st h (Value.reach h v) [] 0 v

end Templating.Json

namespace Templating.Value

/-- The value as compact JSON text. -/
def toJson (h : Heap) (v : Value) : Except Failure String := Json.write Json.compact h v

/-- The value as JSON text indented by two spaces per level. -/
def toJsonIndented (h : Heap) (v : Value) : Except Failure String := Json.write Json.indented h v

end Templating.Value
