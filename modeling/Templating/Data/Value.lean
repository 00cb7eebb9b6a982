import Templating.Data.Stamp
import Templating.Decimal.Shortest
import Templating.Text.Surrogate

/-!
# Data values

The values that data files, environment overrides and replacement maps hold: null, truth values,
integers of any size, doubles, texts, byte strings, timestamps, tuples, lists, sets, and objects
whose keys are values and keep the order in which they were first written.

A value is a tree, except where one object stands at several places or inside itself. Such an
object lives in a `Heap`, and each of its places holds `ref i` for it: a change to the object shows
at every place, and a walk that meets an object it is already inside of has found a cycle.

Keys are compared the way numbers compare when both are numbers, so `1`, `1.0` and `true` are one
key, and `0`, `-0.0` and `false` another; texts, byte strings and timestamps are compared as such,
and values of two other kinds always differ.

## Implementation notes

An object is a list of key and value pairs. Writing a key that is there keeps the key first
written and its place, and takes the new value (`Entries.put`).
-/

namespace Templating

/-- A data value. -/
inductive Value where
  | null
  | bool (b : Bool)
  | int (n : Int)
  | float (x : Float)
  | str (s : String)
  | bytes (bs : List UInt8)
  | stamp (t : Stamp)
  | tuple (xs : List Value)
  | list (xs : List Value)
  | set (xs : List Value)
  | obj (kvs : List (Value × Value))
  /-- The object at a place of the heap. -/
  | ref (i : Nat)
  deriving Inhabited

/-- The objects that several places share, or that hold themselves: `ref i` stands for the
`i`th. -/
abbrev Heap := Array Value

/-- The entries of an object: its keys with their values, each key once. -/
abbrev Entries := List (Value × Value)

/-- A number as it is compared: an integer, or a double. -/
inductive Num where
  | int (n : Int)
  | float (x : Float)

namespace Num

/-- The exact value of a finite double: a signed numerator and a positive denominator. -/
def ratio? (x : Float) : Option (Int × Nat) :=
  let bits := x.toBits.toNat
  let mag := bits % Nat.pow 2 63
  if mag / Nat.pow 2 52 = Nat.pow 2 11 - 1 then none
  else
    let r := (Decimal.Binary.ofBits mag).ratio
    some (if bits ≥ Nat.pow 2 63 then -(r.1 : Int) else r.1, r.2)

/-- Whether an integer equals a double exactly. -/
def intEqFloat (n : Int) (x : Float) : Bool :=
  match ratio? x with
  | some (p, q) => n * q == p
  | none => false

/-- Whether an integer is below a double. -/
def intLtFloat (n : Int) (x : Float) : Bool :=
  match ratio? x with
  | some (p, q) => n * q < p
  | none => x > 0

/-- Whether a double is below an integer. -/
def floatLtInt (x : Float) (n : Int) : Bool :=
  match ratio? x with
  | some (p, q) => p < n * q
  | none => x < 0

/-- Whether two numbers are equal. -/
def eq : Num → Num → Bool
  | int a, int b => a == b
  | int a, float x => intEqFloat a x
  | float x, int a => intEqFloat a x
  | float x, float y => x == y

/-- Whether a number is below another. -/
def lt : Num → Num → Bool
  | int a, int b => decide (a < b)
  | int a, float x => intLtFloat a x
  | float x, int a => floatLtInt x a
  | float x, float y => x < y

end Num

namespace Stamp

/-- The microseconds from the start of year 1 to the timestamp's local time. -/
def localMicros (t : Stamp) : Int :=
  let days := (List.range (t.year - 1)).foldl (fun n y => n + (if leap (y + 1) then 366 else 365)) 0 +
    (List.range (t.month - 1)).foldl (fun n m => n + monthDays t.year (m + 1)) 0 + (t.day - 1)
  let c := t.clock.getD ⟨0, 0, 0, 0, none⟩
  ((((days : Int) * 24 + c.hour) * 60 + c.minute) * 60 + c.second) * 1000000 + c.micro

/-- The offset of the timestamp's zone in minutes; none for a date or a time without a zone. -/
def zone? (t : Stamp) : Option Int := t.clock.bind (·.offset)

/-- The microseconds from the start of year 1 in UTC to the instant of a timestamp with a zone. -/
def instant (t : Stamp) : Int := t.localMicros - (t.zone?.getD 0) * 60000000

/-- Whether two timestamps are equal: dates by their day, times without a zone by their fields,
times with a zone by their instant; a date never equals a time, nor a time with a zone one
without. -/
def same (a b : Stamp) : Bool :=
  match a.clock, b.clock with
  | none, none => a == b
  | some ca, some cb =>
      match ca.offset, cb.offset with
      | none, none => a == b
      | some _, some _ => a.instant == b.instant
      | _, _ => false
  | _, _ => false

/-- Whether a timestamp comes before another; none when the two cannot be ordered, a date and a
time or a time with a zone and one without. -/
def before? (a b : Stamp) : Option Bool :=
  match a.clock, b.clock with
  | none, none => some (a.localMicros < b.localMicros)
  | some ca, some cb =>
      match ca.offset, cb.offset with
      | none, none => some (a.localMicros < b.localMicros)
      | some _, some _ => some (a.instant < b.instant)
      | _, _ => none
  | _, _ => none

end Stamp

namespace Value

/-- The value a place holds: the object a reference stands for, else the value itself. -/
def deref (h : Heap) : Value → Value
  | ref i => h.getD i null
  | v => v

/-- The number a value stands for, truth values counting as 0 and 1. -/
def num? : Value → Option Num
  | bool b => some (.int (if b then 1 else 0))
  | int n => some (.int n)
  | float x => some (.float x)
  | _ => none

/-- Whether two keys are the same key. Numbers are compared by value, and every not-a-number
held in place is the one key not-a-number, the shared object that `.nan` stands for; another
not-a-number is an object of its own (`sameKeyIn`). -/
def sameKey (a b : Value) : Bool :=
  match a.num?, b.num? with
  | some (.float x), some (.float y) => x == y || (x.isNaN && y.isNaN)
  | some x, some y => x.eq y
  | _, _ =>
      match a, b with
      | null, null => true
      | str s, str t => s == t
      | bytes s, bytes t => s == t
      | stamp s, stamp t => s.same t
      | _, _ => false

/-- Whether a value is a double that is not a number. -/
def isNaN : Value → Bool
  | float x => x.isNaN
  | _ => false

/-- Whether two keys are the same key, references followed through the heap. A reference is
always the key it refers to; a not-a-number that is an object of its own is no other key, being
unequal to everything but itself; any other keys are compared as `sameKey` compares them. -/
def sameKeyIn (h : Heap) (a b : Value) : Bool :=
  match a, b with
  | ref i, ref j => i == j || ((!(a.deref h).isNaN && !(b.deref h).isNaN) && (a.deref h).sameKey (b.deref h))
  | ref _, _ | _, ref _ => !(a.deref h).isNaN && !(b.deref h).isNaN && (a.deref h).sameKey (b.deref h)
  | _, _ => a.sameKey b

/-- Whether a key comes before another; none when the two cannot be ordered. -/
def keyBefore? (a b : Value) : Option Bool :=
  match a.num?, b.num? with
  | some x, some y => some (x.lt y)
  | _, _ =>
      match a, b with
      | str s, str t => some (decide (Text.codesOf s < Text.codesOf t))
      | bytes s, bytes t => some (decide (s.map (·.toNat) < t.map (·.toNat)))
      | stamp s, stamp t => s.before? t
      | _, _ => none

/-- An object of text keys. -/
def record (kvs : List (String × Value)) : Value := obj (kvs.map fun (k, v) => (str k, v))

/-- Sets a key of an object's text-keyed entries: in place when the key is there, else at the end. -/
def insert (k : String) (v : Value) : List (String × Value) → List (String × Value)
  | [] => [(k, v)]
  | (k', w) :: r => if k' = k then (k, v) :: r else (k', w) :: insert k v r

/-- Whether a value counts as true in a condition: null, false, zeros, and empty texts, byte
strings and collections do not. -/
def truthy (h : Heap) (v : Value) : Bool :=
  match v.deref h with
  | null => false
  | bool b => b
  | int n => n != 0
  | float x => x != 0
  | str s => !s.isEmpty
  | bytes bs => !bs.isEmpty
  | stamp _ => true
  | tuple xs => !xs.isEmpty
  | list xs => !xs.isEmpty
  | set xs => !xs.isEmpty
  | obj kvs => !kvs.isEmpty
  | ref _ => true

/-- Whether the value is the text `s`. -/
def isStr (s : String) : Value → Bool
  | str t => t == s
  | _ => false

end Value

namespace Entries

/-- The value under a key. -/
def find? (kvs : Entries) (k : Value) : Option Value :=
  (List.find? (fun (p : Value × Value) => p.1.sameKey k) kvs).map (·.2)

/-- Whether an object has a key. -/
def contains (kvs : Entries) (k : Value) : Bool := List.any kvs fun (p : Value × Value) => p.1.sameKey k

/-- Sets a key: its value is replaced in place, the key first written kept, when the key is
there; else the pair goes at the end. -/
def put (k v : Value) : Entries → Entries
  | [] => [(k, v)]
  | (k', w) :: r => if k'.sameKey k then (k', v) :: r else (k', w) :: put k v r

/-- The value under a key, keys compared through the heap. -/
def findIn (h : Heap) (kvs : Entries) (k : Value) : Option Value :=
  (List.find? (fun (p : Value × Value) => p.1.sameKeyIn h k) kvs).map (·.2)

/-- Sets a key as `put` does, keys compared through the heap. -/
def putIn (h : Heap) (k v : Value) : Entries → Entries
  | [] => [(k, v)]
  | (k', w) :: r => if k'.sameKeyIn h k then (k', v) :: r else (k', w) :: putIn h k v r

/-- The value under a text key. -/
def field? (kvs : Entries) (k : String) : Option Value := Entries.find? kvs (.str k)

end Entries

namespace Value

/-- The value under a text key of an object; `none` for a missing key or a value that is no
object. -/
def field? : Value → String → Option Value
  | obj kvs, k => Entries.field? kvs k
  | _, _ => none

@[simp] theorem field?_obj (kvs : Entries) (k : String) :
    (obj kvs).field? k = Entries.field? kvs k := rfl

end Value

mutual

/-- A value with its references moved up by `n` places of the heap. -/
def Value.shift (n : Nat) : Value → Value
  | .ref i => .ref (i + n)
  | .tuple xs => .tuple (Value.shiftItems n xs)
  | .list xs => .list (Value.shiftItems n xs)
  | .set xs => .set (Value.shiftItems n xs)
  | .obj kvs => .obj (Value.shiftEntries n kvs)
  | v => v

/-- Values with their references moved up. -/
def Value.shiftItems (n : Nat) : List Value → List Value
  | [] => []
  | x :: xs => x.shift n :: Value.shiftItems n xs

/-- Entries with their references moved up. -/
def Value.shiftEntries (n : Nat) : List (Value × Value) → List (Value × Value)
  | [] => []
  | (k, v) :: r => (k.shift n, v.shift n) :: Value.shiftEntries n r

end

/-- A value with the heap its references point into. -/
structure Graph where
  heap : Heap := #[]
  root : Value
  deriving Inhabited

/-- Places a graph's heap after another heap: the heap of both, and the graph's root with its
references moved to match. -/
def Graph.placeAfter (g : Graph) (h : Heap) : Heap × Value :=
  (h ++ g.heap.map (Value.shift h.size), g.root.shift h.size)

end Templating
