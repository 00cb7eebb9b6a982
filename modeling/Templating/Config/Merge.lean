import Templating.Data.Display

/-!
# Layering configuration

A layer of configuration is laid over another key by key. Where both layers hold an object the
two merge again into a new object; where both hold a list, the upper list replaces the lower one
unless its first item is the text `+`, in which case its other items are added to the lower
list; any other value of the upper layer replaces the lower one. Keys of the lower layer keep
their places, and keys only the upper layer has follow in its order.

Objects and keys are looked up through the heap, and the values laid over are shared, not
copied. Two
layers that each hold themselves can merge without end; the merge gives up past `mergeDepth`
levels.
-/

namespace Templating.Config

open Value

/-- Lays a list over another: an upper list that starts with the text `+` extends the lower one
by its other items, any other upper list replaces it. -/
def mergeLists (base override : List Value) : List Value :=
  match override with
  | v :: rest => if v.isStr "+" then base ++ rest else override
  | [] => []

/-- How many levels of objects a merge goes down before it gives up. -/
def mergeDepth : Nat := 1000

/-- Lays one upper entry over the lower object, at a depth bound. -/
def mergeEntry (h : Heap) (merge : Entries → Entries → Except Failure Entries)
    (base : Entries) (k v : Value) : Except Failure Entries :=
  match Entries.findIn h base k with
  | some old =>
      match old.deref h, v.deref h with
      | .obj b, .obj o => do pure (Entries.putIn h k (.obj (← merge b o)) base)
      | .list b, .list o => pure (Entries.putIn h k (.list (mergeLists b o)) base)
      | _, _ => pure (Entries.putIn h k v base)
  | none => pure (Entries.putIn h k v base)

/-- Lays the entries of an upper object over a lower one, at a depth bound. -/
def mergeAt (h : Heap) : Nat → Entries → Entries → Except Failure Entries
  | 0, _, _ => .error (tooDeep "")
  | fuel + 1, base, override =>
      override.foldlM (fun acc (kv : Value × Value) => mergeEntry h (mergeAt h fuel) acc kv.1 kv.2) base

/-- Lays the entries of an upper object over a lower one. -/
def mergeObjects (h : Heap) (base override : Entries) : Except Failure Entries :=
  mergeAt h mergeDepth base override

end Templating.Config
