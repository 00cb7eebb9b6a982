import Templating.Data.Display

/-!
# Showing configuration

`Value.table` shows a value as indented lines: an object gives a line `key: value` per entry, or
a line `key:` followed by the nested lines when the value is an object or its text spans several
lines; a list gives its items' texts in brackets; null gives `null`; any other value its text.
Keys are shown by their texts. Each level of nesting is indented by two more spaces, a negative
level by none. Values are looked up through the heap; an object nested in itself goes deeper
than the table may, and fails.

`nestKey` puts a value under a dotted key, one object per nonempty part.
-/

namespace Templating

namespace Value

/-- How many levels of objects a table shows before it gives up. -/
def tableDepth : Nat := 980

/-- A value shown as lines, at a level of nesting and a depth bound. -/
def tableAt (h : Heap) : Nat → Int → Value → Except Failure String
  | 0, _, _ => .error (tooDeep "")
  | fuel + 1, indent, v =>
      match v.deref h with
      | .obj kvs => do
          let lead := String.ofList (List.replicate (2 * indent.toNat) ' ')
          let lines ← kvs.mapM fun (k, w) => do
            let key ← k.text h
            let shown ← tableAt h fuel (indent + 1) w
            let nested := match w.deref h with
              | .obj _ => true
              | _ => false
            if shown.toList.contains '\n' || nested then pure [lead ++ key ++ ":", shown]
            else pure [lead ++ key ++ ": " ++ shown]
          pure ("\n".intercalate lines.flatten)
      | .list xs => do pure ("[" ++ commaList (← xs.mapM (·.text h)) ++ "]")
      | .null => .ok "null"
      | w => w.text h

/-- A value shown as lines, at a level of nesting. -/
def table (h : Heap) (indent : Int) (v : Value) : Except Failure String :=
  tableAt h tableDepth indent v

end Value

/-- A value put under a dotted key: one object for each nonempty part, outermost first. -/
def nestKey (key : String) (v : Value) : Value :=
  ((key.splitOn ".").filter (· ≠ "")).foldr (fun part acc => .record [(part, acc)]) v

end Templating
