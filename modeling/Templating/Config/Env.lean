import Templating.Data.Json.Read
import Templating.Text.Chars
import Templating.Text.Case
import Templating.Failure
import Templating.Data.Display

/-!
# Configuration from the environment

A variable `STENCIL_<key>` sets the configuration at a path read off `<key>`: the key splits at
each double underscore when it has one, else at each underscore, and every part is taken in
lower case. An empty part makes the key malformed.

The variable's text becomes a value by its look, after the blanks at its ends are trimmed:
`true` and `false` in any case are truth values, `null` and `none` are null, a sign and digits of
any script an integer, a decimal with a point a double, and a text in braces or brackets the JSON
it holds; any other text, and a bracketed text that is no JSON, is itself. An integer of more
than 4300 digits, and JSON that holds one or is nested too deeply, fail.

The value is set at the path with each part matched against the keys already there without
regard to case, the last of several matching keys winning; a part that matches no key is added
as it is, and a step whose value is no object gets a fresh object.
-/

namespace Templating.Config

open Text

/-- The digits of a signed integer of any script: an optional sign and at least one digit. -/
def signedDigits (cs : List Char) : Option (Bool × List Nat) :=
  let (negative, ds) := match cs with
    | '-' :: r => (true, r)
    | '+' :: r => (false, r)
    | r => (false, r)
  match ds.mapM digitValue? with
  | some (d :: more) => some (negative, d :: more)
  | _ => none

/-- The value of decimal digits. -/
def digitsNat (ds : List Nat) : Nat := ds.foldl (fun n d => 10 * n + d) 0

/-- The sign, whole digits and fraction digits of a decimal of any script with a point and a
digit on at least one side of it. -/
def pointDecimal (cs : List Char) : Option (Bool × List Nat × List Nat) :=
  let (negative, r) := match cs with
    | '-' :: r => (true, r)
    | '+' :: r => (false, r)
    | r => (false, r)
  match r.splitOn '.' with
  | [w, f] =>
      match w.mapM digitValue?, f.mapM digitValue? with
      | some wd, some fd => if wd.isEmpty && fd.isEmpty then none else some (negative, wd, fd)
      | _, _ => none
  | _ => none

/-- The value an environment text stands for; an integer of more than `digitLimit` digits, and
JSON that cannot be read for a fault, fail. -/
def coerce (raw : String) : Except Failure Value :=
  let s := trim raw
  let low := lower s
  let cs := s.toList
  if low == "true" then .ok (.bool true)
  else if low == "false" then .ok (.bool false)
  else if low == "null" || low == "none" then .ok .null
  else match signedDigits cs with
    | some (negative, ds) =>
        if ds.length > digitLimit then
          .error (Failure.badValue ("Exceeds the limit (4300 digits) for integer string conversion: " ++
            "value has " ++ toString ds.length ++ " digits; use sys.set_int_max_str_digits() to " ++
            "increase the limit"))
        else
          let n : Int := digitsNat ds
          .ok (.int (if negative then -n else n))
    | none =>
        match pointDecimal cs with
        | some (negative, wd, fd) =>
            .ok (.float (Decimal.ofDecimal negative (digitsNat (wd ++ fd)) (-(fd.length : Int))))
        | none =>
            let bracketed := (cs.head? == some '\x7b' && cs.getLast? == some '\x7d') ||
              (cs.head? == some '[' && cs.getLast? == some ']')
            if bracketed then do
              match ← Value.readJson s with
              | some v => pure v
              | none => pure (.str s)
            else .ok (.str s)

/-- Splits a text at every occurrence of a doubled character, left to right. -/
def splitDoubled (c : Char) : List Char → List (List Char)
  | [] => [[]]
  | [x] => [[x]]
  | x :: y :: r =>
      if x = c ∧ y = c then [] :: splitDoubled c r
      else match splitDoubled c (y :: r) with
        | p :: ps => (x :: p) :: ps
        | [] => [[x]]

/-- A malformed environment key: it has an empty part. -/
structure MalformedKey where
  raw : String
  deriving DecidableEq, Repr

/-- The failure a malformed key reports. -/
def MalformedKey.toFailure (e : MalformedKey) : Failure :=
  ⟨.config, "Malformed STENCIL_* key: empty segment in '" ++ e.raw ++ "'",
    [("key", .str ("STENCIL_" ++ e.raw))]⟩

/-- The path of configuration keys an environment key names. -/
def parseEnvKey (raw : String) : Except MalformedKey (List String) :=
  let cs := raw.toList
  let parts := if (splitDoubled '_' cs).length > 1 then splitDoubled '_' cs else cs.splitOn '_'
  if parts.any List.isEmpty then .error ⟨raw⟩
  else .ok (parts.map fun p => lower (String.ofList p))

/-- The key of the object a path part names: the last text key equal to it in lower case, or the
part itself. -/
def resolveKey (kvs : Entries) (part : String) : String :=
  (kvs.foldl (fun found (k, _) => match k with
    | .str t => if lower t == part then some t else found
    | _ => found) none).getD part

/-- The entries of an object in the heap; none for anything else. -/
def heapEntries (h : Heap) (i : Nat) : Entries :=
  match h.getD i .null with
  | .obj kvs => kvs
  | _ => []

mutual

/-- Sets a value at a path of an object that a place holds alone: the heap, with the objects
below changed, and the object's new entries. -/
def setInline (h : Heap) (kvs : Entries) : List String → Value → Heap × Entries
  | [], _ => (h, kvs)
  | [part], v => (h, Entries.put (.str (resolveKey kvs part)) v kvs)
  | part :: rest, v =>
      let k := Value.str (resolveKey kvs part)
      match Entries.find? kvs k with
      | some (.obj c) =>
          let (h, c) := setInline h c rest v
          (h, Entries.put k (.obj c) kvs)
      | some (.ref i) =>
          match h.getD i .null with
          | .obj _ => (setInHeap h i rest v, kvs)
          | _ =>
              let (h, c) := setInline h [] rest v
              (h, Entries.put k (.obj c) kvs)
      | _ =>
          let (h, c) := setInline h [] rest v
          (h, Entries.put k (.obj c) kvs)

/-- Sets a value at a path of the object at place `i` of the heap, which every place that holds
it sees. -/
def setInHeap (h : Heap) (i : Nat) : List String → Value → Heap
  | [], _ => h
  | [part], v =>
      let kvs := heapEntries h i
      h.setIfInBounds i (.obj (Entries.put (.str (resolveKey kvs part)) v kvs))
  | part :: rest, v =>
      let kvs := heapEntries h i
      let k := Value.str (resolveKey kvs part)
      match Entries.find? kvs k with
      | some (.obj c) =>
          let (h, c) := setInline h c rest v
          h.setIfInBounds i (.obj (Entries.put k (.obj c) (heapEntries h i)))
      | some (.ref j) =>
          match h.getD j .null with
          | .obj _ => setInHeap h j rest v
          | _ =>
              let (h, c) := setInline h [] rest v
              h.setIfInBounds i (.obj (Entries.put k (.obj c) (heapEntries h i)))
      | _ =>
          let (h, c) := setInline h [] rest v
          h.setIfInBounds i (.obj (Entries.put k (.obj c) (heapEntries h i)))

end

/-- Sets a value at a path of an object, matching the parts to its keys without regard to case;
an empty path fails. -/
def setNested (h : Heap) (kvs : Entries) (path : List String) (v : Value) :
    Except Failure (Heap × Entries) :=
  if path.isEmpty then .error (Failure.uncaught "IndexError" "list index out of range")
  else .ok (setInline h kvs path v)

end Templating.Config
