import Templating.Config.Env
import Templating.Proofs.Config.Merge

/-!
# Setting a value at a path of nested objects

An environment override sets a value at a path of keys, each part matched against the text keys
of the object it reaches without regard to case (`setNested`). On a tree of objects, where no
object is shared, the change stays on the path the parts resolve to:

* following the resolved keys from the root reaches the value;
* each object on the way keeps its other keys with their values, and gains a key only when no
  key matched its part and the part itself was no key, and then it gains the part;
* a step that held no object now holds a fresh object with that one key;
* every path of keys off the resolved path reads as before.

Main statement: `setNested_resolvedPath`.

## Implementation notes

`setAt` sets the value below an optional node the way the override walks it: a node that is no
object counts as an empty object. On a tree `setInline` is `setAt` (`setInline_eq`), and each law
is an induction on the path, one object at a time.
-/

namespace Templating

/-! ## Trees of objects -/

namespace Value

/-- A value whose objects hold their values in place: no value of an object in it, at any depth
through objects, is a reference into the heap, so no object in it is shared. -/
inductive Tree : Value → Prop
  | leaf {v : Value} (hobj : ∀ kvs, v ≠ .obj kvs) (href : ∀ i, v ≠ .ref i) : Tree v
  | obj (kvs : Entries) (inner : ∀ kv ∈ kvs, Tree kv.2) : Tree (.obj kvs)

theorem Tree.inner_of_obj {kvs : Entries} (h : Tree (.obj kvs)) : ∀ kv ∈ kvs, Tree kv.2 := by
  cases h with
  | leaf hobj _ => exact absurd rfl (hobj kvs)
  | obj _ inner => exact inner

theorem Tree.ne_ref {v : Value} (h : Tree v) (i : Nat) : v ≠ .ref i := by
  cases h with
  | leaf _ href => exact href i
  | obj _ _ => exact fun h => Value.noConfusion h

/-- The value under a key of a tree is a tree. -/
theorem Tree.of_find? {kvs : Entries} (h : Tree (.obj kvs)) {k w : Value}
    (hf : Entries.find? kvs k = some w) : Tree w := by
  obtain ⟨kv, hkv, rfl⟩ := Option.map_eq_some_iff.1 hf
  exact h.inner_of_obj kv (List.mem_of_find?_eq_some hkv)

/-- A text key is the same key as another key exactly when the other is that text. -/
theorem str_sameKey (s : String) (b : Value) : (Value.str s).sameKey b = true ↔ b = .str s := by
  cases b with
  | str t =>
      simp only [sameKey_str_str, beq_iff_eq, Value.str.injEq]
      exact eq_comm
  | _ => simp [sameKey, num?]

theorem str_sameKey_eq_false {s : String} {b : Value} (h : b ≠ .str s) :
    (Value.str s).sameKey b = false :=
  Bool.eq_false_iff.2 fun hb => h ((str_sameKey s b).1 hb)

theorem sameKey_str_eq_false {a : Value} {s : String} (h : a ≠ .str s) :
    a.sameKey (.str s) = false :=
  Bool.eq_false_iff.2 fun hb => h ((sameKey_str a s).1 hb)

end Value

/-! ## Setting a text key -/

namespace Entries

theorem find?_cons (k0 v0 : Value) (r : Entries) (k : Value) :
    Entries.find? ((k0, v0) :: r) k = if k0.sameKey k then some v0 else Entries.find? r k := by
  simp only [find?, List.find?_cons]
  split <;> simp_all

/-- Putting a text key leaves the value of every other key. -/
theorem find?_put_str_ne {s : String} {k : Value} (hk : k ≠ .str s) (w : Value) (kvs : Entries) :
    Entries.find? (Entries.put (.str s) w kvs) k = Entries.find? kvs k := by
  induction kvs with
  | nil => simp [put, Value.str_sameKey_eq_false hk, find?]
  | cons e r ih =>
      obtain ⟨k0, v0⟩ := e
      simp only [put]
      by_cases h0 : k0.sameKey (.str s) = true
      · -- the key is there: only its value changes, and `k` is another key
        obtain rfl := (Value.sameKey_str _ _).1 h0
        simp [find?_cons, Value.str_sameKey_eq_false hk]
      · rw [if_neg h0, find?_cons, find?_cons, ih]

/-- Putting a text key sets that key and leaves every other text key as it was. -/
theorem field?_put_str (s s' : String) (w : Value) (kvs : Entries) :
    Entries.field? (Entries.put (.str s) w kvs) s' =
      if s = s' then some w else Entries.field? kvs s' := by
  by_cases hs : s = s'
  · subst hs
    rw [if_pos rfl]
    induction kvs with
    | nil => simp [put, field?_cons]
    | cons e r ih =>
        obtain ⟨k0, v0⟩ := e
        simp only [put]
        by_cases h0 : k0.sameKey (.str s) = true
        · simp [field?_cons, h0]
        · rw [if_neg h0, field?_cons, if_neg h0, ih]
  · rw [if_neg hs]
    exact find?_put_str_ne (by simpa using Ne.symm hs) w kvs

/-- Putting a text key that is there keeps the keys. -/
theorem keys_put_str_of_mem {s : String} {kvs : Entries} (h : Value.str s ∈ kvs.map Prod.fst)
    (w : Value) : (Entries.put (.str s) w kvs).map Prod.fst = kvs.map Prod.fst := by
  induction kvs with
  | nil => simp at h
  | cons e r ih =>
      obtain ⟨k0, v0⟩ := e
      simp only [put]
      by_cases h0 : k0.sameKey (.str s) = true
      · simp [h0]
      · have hk0 : k0 ≠ .str s := fun he => h0 ((Value.sameKey_str _ _).2 he)
        have hr : Value.str s ∈ r.map Prod.fst := by
          simpa [Ne.symm hk0] using h
        simp [h0, ih hr]

/-- Putting a text key that is not there adds it at the end. -/
theorem keys_put_str_of_not_mem {s : String} {kvs : Entries} (h : Value.str s ∉ kvs.map Prod.fst)
    (w : Value) :
    (Entries.put (.str s) w kvs).map Prod.fst = kvs.map Prod.fst ++ [.str s] := by
  induction kvs with
  | nil => simp [put]
  | cons e r ih =>
      obtain ⟨k0, v0⟩ := e
      have hk0 : k0 ≠ .str s := fun he => h (by simp [he])
      have h0 := Value.sameKey_str_eq_false hk0
      have hr : Value.str s ∉ r.map Prod.fst := fun hr => h (List.mem_cons_of_mem _ hr)
      simp [put, h0, ih hr]

end Entries

/-! ## The key a part resolves to -/

namespace Config

open Text

/-- The text key of an entry when its lower case is the part. -/
def matchingKey (part : String) (kv : Value × Value) : Option String :=
  match kv.1 with
  | .str t => if lower t = part then some t else none
  | _ => none

/-- The last text key of an object, in the object's order, whose lower case is the part. -/
def lastMatch (kvs : Entries) (part : String) : Option String :=
  (kvs.filterMap (matchingKey part)).getLast?

/-- The key a part names in an object: its last match, or the part itself when no key matches. -/
def resolve (kvs : Entries) (part : String) : String := (lastMatch kvs part).getD part

@[simp] theorem resolve_nil (part : String) : resolve [] part = part := rfl

/-- A fold that keeps the latest match ends with the last match, or where it started. -/
theorem foldl_eq_lastMatch_or {f : Option String → Value × Value → Option String} {part : String}
    (hf : ∀ found kv, f found kv = (matchingKey part kv).or found) (kvs : Entries)
    (found : Option String) : kvs.foldl f found = (lastMatch kvs part).or found := by
  induction kvs generalizing found with
  | nil => rfl
  | cons kv kvs ih =>
      rw [List.foldl_cons, ih, hf, lastMatch, lastMatch, List.filterMap_cons]
      cases matchingKey part kv with
      | none => simp
      | some t =>
          rw [List.getLast?_cons]
          cases (kvs.filterMap (matchingKey part)).getLast? <;> simp

/-- The key the override resolves a part to is the last match, or the part. -/
theorem resolveKey_eq_resolve (kvs : Entries) (part : String) :
    resolveKey kvs part = resolve kvs part := by
  rw [resolveKey, resolve, foldl_eq_lastMatch_or ?_ kvs none, Option.or_none]
  rintro found ⟨k, w⟩
  cases k <;> simp only [matchingKey, Option.none_or]
  split <;> simp_all

/-- A match is a key of the object. -/
theorem mem_keys_of_lastMatch {kvs : Entries} {part t : String} (h : lastMatch kvs part = some t) :
    Value.str t ∈ kvs.map Prod.fst := by
  obtain ⟨⟨k, w⟩, hmem, hk⟩ := List.mem_filterMap.1 (List.mem_of_getLast? h)
  cases k with
  | str t' =>
      simp only [matchingKey] at hk
      split at hk
      · cases hk
        exact List.mem_map_of_mem hmem
      · cases hk
  | _ => simp [matchingKey] at hk

/-! ## Setting below a node -/

/-- An object `n` is `o` with the key that `part` resolves to set: every other key keeps its
value, and the keys are those of `o`, with the part added at the end when no key matched it and
it was no key. -/
structure SetsResolved (o n : Entries) (part : String) : Prop where
  others : ∀ k, k ≠ .str (resolve o part) → Entries.find? n k = Entries.find? o k
  keys : n.map Prod.fst = o.map Prod.fst ∨
    (lastMatch o part = none ∧ Value.str part ∉ o.map Prod.fst ∧
      n.map Prod.fst = o.map Prod.fst ++ [.str part])

/-- Putting the resolved key sets only it. -/
theorem setsResolved_put (o : Entries) (part : String) (w : Value) :
    SetsResolved o (Entries.put (.str (resolve o part)) w o) part where
  others _ hk := Entries.find?_put_str_ne hk w o
  keys := by
    by_cases hm : Value.str (resolve o part) ∈ o.map Prod.fst
    · exact .inl (Entries.keys_put_str_of_mem hm w)
    · -- a match would be a key, so there is none and the part is its own key
      have hnone : lastMatch o part = none := by
        cases hl : lastMatch o part with
        | none => rfl
        | some t =>
            have hres : resolve o part = t := by simp [resolve, hl]
            exact absurd (hres ▸ mem_keys_of_lastMatch hl) hm
      have hres : resolve o part = part := by simp [resolve, hnone]
      rw [hres] at hm ⊢
      exact .inr ⟨hnone, hm, Entries.keys_put_str_of_not_mem hm w⟩

/-- The entries the walk reads a node as: an object's own, and none for anything else. -/
def objEntries : Option Value → Entries
  | some (.obj kvs) => kvs
  | _ => []

/-- A node after setting a value at a path below it: each step reads the node as an object, a
node that is no object as an empty one, and puts the key the part resolves to. -/
def setAt : Option Value → List String → Value → Value
  | _, [], v => v
  | node, part :: rest, v =>
      .obj (Entries.put (.str (resolve (objEntries node) part))
        (setAt (Entries.field? (objEntries node) (resolve (objEntries node) part)) rest v)
        (objEntries node))

/-- The keys a path resolves to below a node, one part at a time. -/
def resolvedPath : Option Value → List String → List String
  | _, [] => []
  | node, part :: rest =>
      resolve (objEntries node) part ::
        resolvedPath (Entries.field? (objEntries node) (resolve (objEntries node) part)) rest

@[simp] theorem length_resolvedPath (node : Option Value) (path : List String) :
    (resolvedPath node path).length = path.length := by
  induction path generalizing node with
  | nil => rfl
  | cons part rest ih => simp [resolvedPath, ih]

/-- Only an object leads on, so a node leads where its entries do. -/
theorem bind_atPath_cons (node : Option Value) (k : String) (q : List String) :
    node.bind (·.atPath (k :: q)) = (Entries.field? (objEntries node) k).bind (·.atPath q) := by
  match node with
  | some (.obj kvs) => rfl
  | none => rfl
  | some (.null) | some (.bool _) | some (.int _) | some (.float _) | some (.str _)
  | some (.bytes _) | some (.stamp _) | some (.tuple _) | some (.list _) | some (.set _)
  | some (.ref _) => rfl

/-- The step below the resolved key of a set node is the node set below the old step. -/
theorem atPath_setAt_cons (node : Option Value) (part : String) (rest q : List String) (v : Value) :
    (setAt node (part :: rest) v).atPath (resolve (objEntries node) part :: q) =
      (setAt (Entries.field? (objEntries node) (resolve (objEntries node) part)) rest v).atPath q := by
  simp [setAt, Entries.field?_put_str]

/-- Following the resolved keys reaches the value. -/
theorem atPath_setAt_resolvedPath (v : Value) (path : List String) (node : Option Value) :
    (setAt node path v).atPath (resolvedPath node path) = some v := by
  induction path generalizing node with
  | nil => rfl
  | cons part rest ih => rw [resolvedPath, atPath_setAt_cons, ih]

/-- A path off the resolved path, neither leading into it nor through it, reads as before. -/
theorem atPath_setAt_off (v : Value) (path : List String) (node : Option Value) (q : List String)
    (hq : ¬ q <+: resolvedPath node path) (hp : ¬ resolvedPath node path <+: q) :
    (setAt node path v).atPath q = node.bind (·.atPath q) := by
  induction path generalizing node q with
  | nil => exact absurd List.nil_prefix hp
  | cons part rest ih =>
      match q with
      | [] => exact absurd List.nil_prefix hq
      | k :: q =>
          simp only [resolvedPath, List.cons_prefix_cons, not_and] at hq hp
          rw [bind_atPath_cons]
          by_cases hk : resolve (objEntries node) part = k
          · -- the path goes on below the resolved key: it leaves the resolved path further down
            subst hk
            rw [atPath_setAt_cons, ih _ _ (hq rfl) (hp rfl)]
          · simp [setAt, Entries.field?_put_str, hk]

/-- Each node on the resolved path was an object and keeps all but the resolved key, or was no
object and is now a fresh object with the part as its one key. -/
theorem setAt_along (v : Value) (part : String) (post : List String) :
    ∀ (pre : List String) (node : Option Value),
      let q := (resolvedPath node (pre ++ part :: post)).take pre.length
      (∃ o n, node.bind (·.atPath q) = some (.obj o) ∧
          (setAt node (pre ++ part :: post) v).atPath q = some (.obj n) ∧ SetsResolved o n part) ∨
        ((∀ o, node.bind (·.atPath q) ≠ some (.obj o)) ∧
          ∃ w, (setAt node (pre ++ part :: post) v).atPath q = some (.obj [(.str part, w)]))
  | [], node => by
      simp only [List.length_nil, List.take_zero, Value.atPath_nil]
      match node with
      | some (.obj o) =>
          exact .inl ⟨o, _, by simp, rfl, setsResolved_put o part _⟩
      | none => exact .inr ⟨by simp, setAt none post v, by simp [setAt, objEntries, Entries.put]⟩
      | some (.null) | some (.bool _) | some (.int _) | some (.float _) | some (.str _)
      | some (.bytes _) | some (.stamp _) | some (.tuple _) | some (.list _) | some (.set _)
      | some (.ref _) =>
          exact .inr ⟨by simp, setAt none post v, by simp [setAt, objEntries, Entries.put]⟩
  | p :: pre, node => by
      -- one object down: the node below the resolved key of `p` carries the rest of the path
      have ih := setAt_along v part post pre
        (Entries.field? (objEntries node) (resolve (objEntries node) p))
      simp only [List.cons_append, resolvedPath, List.length_cons, List.take_succ_cons]
      rw [bind_atPath_cons, atPath_setAt_cons]
      exact ih

/-! ## The override on a tree -/

/-- On a tree, setting inline is setting below the root: the heap is not touched. -/
theorem setInline_eq (h : Heap) (v : Value) (rest : List String) :
    ∀ (kvs : Entries), (Value.obj kvs).Tree → ∀ part : String,
      setInline h kvs (part :: rest) v =
        (h, Entries.put (.str (resolve kvs part))
          (setAt (Entries.field? kvs (resolve kvs part)) rest v) kvs) := by
  induction rest with
  | nil =>
      intro kvs _ part
      simp [setInline, setAt, resolveKey_eq_resolve]
  | cons p rest ih =>
      intro kvs htree part
      rw [setInline.eq_3 h kvs v part (p :: rest) (by simp), resolveKey_eq_resolve]
      -- the value under the resolved key is an object, or anything but a reference
      cases hf : Entries.find? kvs (.str (resolve kvs part)) with
      | none =>
          simp only [ih [] (.obj [] fun _ h => by simp at h) p]
          simp [Entries.field?, hf, setAt, objEntries]
      | some w =>
          have hw := htree.of_find? hf
          cases w
          case obj c =>
            simp only [ih c hw p]
            simp [Entries.field?, hf, setAt, objEntries]
          case ref i => exact absurd rfl (hw.ne_ref i)
          -- any other value gives way to a fresh object
          all_goals
            simp only [ih [] (.obj [] fun _ h => by simp at h) p]
            simp [Entries.field?, hf, setAt, objEntries]

/-- Setting a value at a non-empty path of a tree of objects changes only the resolved path.
Each part resolves, in the object it reaches, to the last text key whose lower case is the part,
or to the part itself when there is none. Following the resolved keys from the root reaches the
value; each object on the way keeps every other key with its value and gains at most one key,
the part, and only when no key matched it and it was no key; a step that held no object, or
nothing, now holds a fresh object with the one key; every path off the resolved path reads as
before. The heap is left as it is. -/
theorem setNested_resolvedPath (h : Heap) (kvs : Entries) (htree : (Value.obj kvs).Tree)
    (path : List String) (hpath : path ≠ []) (v : Value) :
    ∃ kvs', setNested h kvs path v = .ok (h, kvs') ∧
      (Value.obj kvs').atPath (resolvedPath (some (.obj kvs)) path) = some v ∧
      (∀ pre part post, path = pre ++ part :: post →
        let q := (resolvedPath (some (.obj kvs)) path).take pre.length
        (∃ o n, (Value.obj kvs).atPath q = some (.obj o) ∧
            (Value.obj kvs').atPath q = some (.obj n) ∧ SetsResolved o n part) ∨
          ((∀ o, (Value.obj kvs).atPath q ≠ some (.obj o)) ∧
            ∃ w, (Value.obj kvs').atPath q = some (.obj [(.str part, w)]))) ∧
      ∀ q, ¬ q <+: resolvedPath (some (.obj kvs)) path →
        ¬ resolvedPath (some (.obj kvs)) path <+: q →
          (Value.obj kvs').atPath q = (Value.obj kvs).atPath q := by
  obtain ⟨part, rest, rfl⟩ := List.exists_cons_of_ne_nil hpath
  -- the new root is the root set below itself
  have hroot : Value.obj (setInline h kvs (part :: rest) v).2 =
      setAt (some (.obj kvs)) (part :: rest) v := by
    rw [setInline_eq h v rest kvs htree part]
    rfl
  refine ⟨(setInline h kvs (part :: rest) v).2, ?_, ?_, ?_, ?_⟩
  · rw [setNested, if_neg (by simp), setInline_eq h v rest kvs htree part]
  · rw [hroot]
    exact atPath_setAt_resolvedPath v _ _
  · intro pre part' post hsplit
    rw [hroot, hsplit]
    exact setAt_along v part' post pre (some (.obj kvs))
  · intro q hq hp
    rw [hroot]
    exact atPath_setAt_off v _ _ q hq hp

/-- Setting `port` below `server` in an object with the keys `Server` and `Port` resolves both
parts to the keys that are there. -/
theorem setNested_resolvedPath_caseless :
    (Value.obj [(.str "Server", .obj [(.str "Port", .int 80)])]).Tree ∧ ["server", "port"] ≠ [] ∧
      ∃ kvs', setNested #[] [(.str "Server", .obj [(.str "Port", .int 80)])] ["server", "port"]
          (.int 8080) = .ok (#[], kvs') ∧
        (Value.obj kvs').atPath (resolvedPath (some (.obj [(.str "Server", .obj [(.str "Port", .int 80)])]))
          ["server", "port"]) = some (.int 8080) ∧
        (∀ pre part post, ["server", "port"] = pre ++ part :: post →
          let q := (resolvedPath (some (.obj [(.str "Server", .obj [(.str "Port", .int 80)])]))
            ["server", "port"]).take pre.length
          (∃ o n, (Value.obj [(.str "Server", .obj [(.str "Port", .int 80)])]).atPath q =
                some (.obj o) ∧ (Value.obj kvs').atPath q = some (.obj n) ∧ SetsResolved o n part) ∨
            ((∀ o, (Value.obj [(.str "Server", .obj [(.str "Port", .int 80)])]).atPath q ≠
                some (.obj o)) ∧
              ∃ w, (Value.obj kvs').atPath q = some (.obj [(.str part, w)]))) ∧
        ∀ q, ¬ q <+: resolvedPath (some (.obj [(.str "Server", .obj [(.str "Port", .int 80)])]))
            ["server", "port"] →
          ¬ resolvedPath (some (.obj [(.str "Server", .obj [(.str "Port", .int 80)])]))
            ["server", "port"] <+: q →
            (Value.obj kvs').atPath q = (Value.obj [(.str "Server", .obj [(.str "Port", .int 80)])]).atPath q := by
  have htree : (Value.obj [(.str "Server", .obj [(.str "Port", .int 80)])]).Tree := by
    refine .obj _ fun kv hkv => ?_
    obtain rfl := List.mem_singleton.1 hkv
    refine .obj _ fun kv hkv => ?_
    obtain rfl := List.mem_singleton.1 hkv
    exact .leaf (fun _ h => Value.noConfusion h) (fun _ h => Value.noConfusion h)
  exact ⟨htree, by simp, setNested_resolvedPath #[] _ htree ["server", "port"] (by simp) (.int 8080)⟩

end Config

end Templating
