import Templating.Config.Merge

/-!
# Layering objects, path by path

`mergeObjects` lays an upper object over a lower one. Followed along any path of keys, the result
is what precedence between the two layers gives (`Layered`):

* where the upper object holds a value that is not an object, the result holds that value, or the
  lower list extended by its other items when both are lists and the upper one starts with `+`;
* where only the lower object reaches the path, and the upper object holds objects wherever it
  reaches on the way, the result holds the lower value;
* where both hold objects, the result holds an object with the lower object's keys in their order,
  then the upper object's new keys in theirs.

Main statement: `mergeObjects_layered`. The layers are read as JSON gives them: no heap, and the
keys of the upper object are texts, each once, at every depth (`Value.TextKeyed`). The merge
returns whenever the upper object nests objects no deeper than `mergeDepth`. The layers are values,
so merging changes neither of them.

## Implementation notes

A merge is a fold over the upper entries, each step putting one key (`mergeEntry_eq`). The keys of
the upper object are distinct, so each step reads its key in the lower object as it was before the
fold (`foldlM_mergeEntry`). Each law then follows by induction on the path, one level of objects
at a time.
-/

namespace Templating

open Config

/-- Entries keyed by texts, as a JSON object gives them. -/
def Entries.ofTextKeys (ts : List (String × Value)) : Entries :=
  ts.map fun kv => (.str kv.1, kv.2)

@[simp] theorem Entries.ofTextKeys_cons (k : String) (v : Value) (ts : List (String × Value)) :
    Entries.ofTextKeys ((k, v) :: ts) = (.str k, v) :: Entries.ofTextKeys ts := rfl

theorem Entries.map_fst_ofTextKeys (ts : List (String × Value)) :
    (Entries.ofTextKeys ts).map Prod.fst = ts.map fun kv => .str kv.1 := by
  simp [Entries.ofTextKeys, Function.comp_def]

/-! ## Values along a path -/

namespace Value

/-- The value reached by following a path of text keys through objects; `none` once the path
leaves the objects. -/
def atPath : Value → List String → Option Value
  | v, [] => some v
  | .obj kvs, k :: p => (Entries.field? kvs k).bind fun v => v.atPath p
  | _, _ :: _ => none

@[simp] theorem atPath_nil (v : Value) : v.atPath [] = some v := rfl

@[simp] theorem atPath_obj_cons (kvs : Entries) (k : String) (p : List String) :
    (Value.obj kvs).atPath (k :: p) = (Entries.field? kvs k).bind fun v => v.atPath p := rfl

/-- Only an object leads further. -/
theorem atPath_cons_of_not_obj {v : Value} (h : ∀ kvs, v ≠ .obj kvs) (k : String)
    (p : List String) : v.atPath (k :: p) = none := by
  cases v with
  | obj kvs => exact absurd rfl (h kvs)
  | _ => rfl

/-- A value that leads somewhere further is an object. -/
theorem exists_obj_of_atPath_cons {v w : Value} {k : String} {p : List String}
    (h : v.atPath (k :: p) = some w) : ∃ kvs, v = .obj kvs := by
  cases v with
  | obj kvs => exact ⟨kvs, rfl⟩
  | _ => cases h

/-- A value that leads to an object is an object. -/
theorem exists_obj_of_atPath {v : Value} {p : List String} {o : Entries}
    (h : v.atPath p = some (.obj o)) : ∃ kvs, v = .obj kvs := by
  cases p with
  | nil => exact ⟨o, by simpa using h⟩
  | cons k p => exact exists_obj_of_atPath_cons h

mutual

/-- How deep objects nest in a value; 0 for a value that is not an object. -/
def nesting : Value → Nat
  | .obj kvs => Value.entriesNesting kvs + 1
  | _ => 0

/-- How deep objects nest in the values of entries. -/
def entriesNesting : List (Value × Value) → Nat
  | [] => 0
  | (_, v) :: r => max v.nesting (Value.entriesNesting r)

end

theorem nesting_le_entriesNesting {kvs : List (Value × Value)} {kv : Value × Value}
    (h : kv ∈ kvs) : kv.2.nesting ≤ entriesNesting kvs := by
  induction kvs with
  | nil => simp at h
  | cons e r ih =>
      obtain ⟨k, v⟩ := e
      rw [entriesNesting]
      rcases List.mem_cons.1 h with rfl | h
      · exact Nat.le_max_left _ _
      · exact Nat.le_trans (ih h) (Nat.le_max_right _ _)

/-- A value as JSON gives it: the keys of each object in it are texts, each once. Values other than
objects may be anything. -/
inductive TextKeyed : Value → Prop
  | leaf {v : Value} (h : ∀ kvs, v ≠ .obj kvs) : TextKeyed v
  | obj (ts : List (String × Value)) (nodup : (ts.map Prod.fst).Nodup)
      (keyed : ∀ kv ∈ ts, TextKeyed kv.2) : TextKeyed (.obj (Entries.ofTextKeys ts))

theorem TextKeyed.obj_inv {kvs : Entries} (h : TextKeyed (.obj kvs)) :
    ∃ ts : List (String × Value), kvs = Entries.ofTextKeys ts ∧
      (ts.map Prod.fst).Nodup ∧ ∀ kv ∈ ts, TextKeyed kv.2 := by
  cases h with
  | leaf h => exact absurd rfl (h kvs)
  | obj ts hnd hk => exact ⟨ts, rfl, hnd, hk⟩

/-- The value an object of text keys holds at a key is as JSON gives it. -/
theorem TextKeyed.of_lookup {ts : List (String × Value)} (hk : ∀ kv ∈ ts, TextKeyed kv.2)
    {k : String} {v : Value} (h : ts.lookup k = some v) : TextKeyed v := by
  obtain ⟨l₁, l₂, rfl, -⟩ := List.lookup_eq_some_iff.1 h
  exact hk (k, v) (by simp)

/-! ## Text keys -/

@[simp] theorem sameKey_str_str (a b : String) : (Value.str a).sameKey (.str b) = (a == b) := rfl

/-- A key is the text key `k` exactly when it is that text. -/
theorem sameKey_str (a : Value) (k : String) : a.sameKey (.str k) = true ↔ a = .str k := by
  cases a <;> simp [sameKey, num?]

/-- Without a heap, keys compare with a text key as they do on their own. -/
theorem sameKeyIn_empty_str (a : Value) (k : String) :
    a.sameKeyIn #[] (.str k) = a.sameKey (.str k) := by
  cases a <;> simp [sameKeyIn, sameKey, deref, isNaN, num?]

theorem deref_empty_eq_obj (v : Value) (b : Entries) : v.deref #[] = .obj b ↔ v = .obj b := by
  cases v <;> simp [deref]

theorem deref_empty_eq_list (v : Value) (b : List Value) :
    v.deref #[] = .list b ↔ v = .list b := by
  cases v <;> simp [deref]

end Value

theorem lookup_cons_ne {k k0 : String} {v0 : Value} {ts : List (String × Value)} (h : k ≠ k0) :
    ((k0, v0) :: ts).lookup k = ts.lookup k := by
  have hb : (k == k0) = false := by simpa using h
  rw [List.lookup_cons, hb]

namespace Entries

theorem field?_cons (k0 v0 : Value) (r : Entries) (k : String) :
    Entries.field? ((k0, v0) :: r) k =
      if k0.sameKey (.str k) then some v0 else Entries.field? r k := by
  simp only [field?, find?, List.find?_cons]
  split <;> simp_all

@[simp] theorem field?_nil (k : String) : Entries.field? [] k = none := rfl

/-- Entries of text keys are looked up as their keys and values are. -/
theorem field?_ofTextKeys (ts : List (String × Value)) (k : String) :
    Entries.field? (Entries.ofTextKeys ts) k = ts.lookup k := by
  induction ts with
  | nil => rfl
  | cons e ts ih =>
      obtain ⟨k0, v0⟩ := e
      rw [ofTextKeys_cons, field?_cons, ih, Value.sameKey_str_str]
      by_cases hk : k = k0
      · subst hk
        simp
      · have hb : (k0 == k) = false := by simpa using Ne.symm hk
        rw [hb, lookup_cons_ne hk]
        rfl

theorem findIn_empty_str (acc : Entries) (k : String) :
    Entries.findIn #[] acc (.str k) = Entries.field? acc k := by
  simp only [findIn, field?, find?, Value.sameKeyIn_empty_str]

/-- Putting a text key sets that key and leaves every other text key as it was. -/
theorem field?_putIn (k k' : String) (w : Value) (acc : Entries) :
    Entries.field? (Entries.putIn #[] (.str k) w acc) k' =
      if k = k' then some w else Entries.field? acc k' := by
  induction acc with
  | nil => simp [putIn, field?_cons]
  | cons e r ih =>
      obtain ⟨k0, v0⟩ := e
      simp only [putIn, Value.sameKeyIn_empty_str]
      by_cases h0 : k0.sameKey (.str k) = true
      · -- the key is there: its value is replaced in place
        obtain rfl := (Value.sameKey_str _ _).1 h0
        by_cases hk : k = k' <;> simp [field?_cons, hk]
      · rw [if_neg h0, field?_cons, field?_cons, ih]
        by_cases hk : k = k'
        · subst hk
          simp [h0]
        · simp [hk]

theorem contains_eq_any (acc : Entries) (key : Value) :
    Entries.contains acc key = (acc.map Prod.fst).any fun k0 => k0.sameKey key := by
  simp [contains, List.any_map, Function.comp_def]

/-- Putting a text key keeps the keys and their order, and adds the key last when it is new. -/
theorem map_fst_putIn (k : String) (w : Value) (acc : Entries) :
    (Entries.putIn #[] (.str k) w acc).map Prod.fst =
      if Entries.contains acc (.str k) then acc.map Prod.fst else acc.map Prod.fst ++ [.str k] := by
  induction acc with
  | nil => simp [putIn, contains]
  | cons e r ih =>
      obtain ⟨k0, v0⟩ := e
      simp only [putIn, Value.sameKeyIn_empty_str]
      by_cases h0 : k0.sameKey (.str k) = true
      · simp [h0, contains]
      · have hr : Entries.contains ((k0, v0) :: r) (.str k) = Entries.contains r (.str k) := by
          simp [contains, h0]
        rw [if_neg h0, hr, List.map_cons, ih]
        split <;> simp

/-- After putting a text key, another text key is there exactly when it was. -/
theorem contains_putIn_ne {k k' : String} (hne : k ≠ k') (w : Value) (acc : Entries) :
    Entries.contains (Entries.putIn #[] (.str k) w acc) (.str k') =
      Entries.contains acc (.str k') := by
  rw [contains_eq_any, contains_eq_any, map_fst_putIn]
  split
  · rfl
  · have hk : (k == k') = false := by simpa using hne
    simp [hk]

end Entries

/-- A path through an object of text keys goes on from the value of its first key. -/
theorem Value.atPath_ofTextKeys_cons (ts : List (String × Value)) (k : String) (p : List String) :
    (Value.obj (Entries.ofTextKeys ts)).atPath (k :: p) = (ts.lookup k).bind fun v => v.atPath p := by
  rw [atPath_obj_cons, Entries.field?_ofTextKeys]

namespace Config

/-- The keys of an object laid over another: the lower keys in their order, then the keys only the
upper object has, in theirs. -/
def layeredKeys (base override : Entries) : List Value :=
  base.map Prod.fst ++ (override.map Prod.fst).filter fun key => !Entries.contains base key

/-- What an upper value that is not an object leaves at its place over a lower value: the lower
list extended by its other items when both are lists and it starts with `+`, else itself. -/
def overValue : Option Value → Value → Value
  | some (.list b), .list (x :: r) => if x.isStr "+" then .list (b ++ r) else .list (x :: r)
  | _, v => v

/-! ## One key laid over another -/

section Laying

/- `merge` lays an upper object over a lower one, one level of objects down. -/
variable (merge : Entries → Entries → Except Failure Entries)

/-- What a key holds once an upper value is laid over the lower value. -/
def laid : Option Value → Value → Except Failure Value
  | some (.obj b), .obj o => (merge b o).map .obj
  | some (.list b), .list o => .ok (.list (mergeLists b o))
  | _, v => .ok v

theorem laid_obj (b o : Entries) :
    laid merge (some (.obj b)) (.obj o) = (merge b o).map .obj := rfl

/-- An upper object over anything but an object replaces it. -/
theorem laid_obj_of_not_obj {old : Option Value} (h : ∀ b, old ≠ some (.obj b)) (o : Entries) :
    laid merge old (.obj o) = .ok (.obj o) := by
  cases old with
  | none => rfl
  | some u =>
      cases u with
      | obj b => exact absurd rfl (h b)
      | _ => rfl

/-- An upper value that is not an object is laid as `overValue` says. -/
theorem laid_of_not_obj (old : Option Value) {v : Value} (h : ∀ o, v ≠ .obj o) :
    laid merge old v = .ok (overValue old v) := by
  cases v with
  | obj o => exact absurd rfl (h o)
  | list o =>
      cases old with
      | none => rfl
      | some u =>
          cases u with
          | list b =>
              -- a list over a list: `mergeLists` is what `overValue` spells out
              cases o with
              | nil => rfl
              | cons x r =>
                  show Except.ok (Value.list (if x.isStr "+" then b ++ r else x :: r)) =
                    Except.ok (if x.isStr "+" then Value.list (b ++ r) else Value.list (x :: r))
                  split <;> rfl
          | _ => rfl
  | _ =>
      cases old with
      | none => rfl
      | some u => cases u <;> rfl

variable {merge} in
/-- An object laid over an object is the merge of the two. -/
theorem exists_of_laid_obj {b o : Entries} {w : Value}
    (h : laid merge (some (.obj b)) (.obj o) = .ok w) :
    ∃ m, merge b o = .ok m ∧ w = .obj m := by
  rw [laid_obj] at h
  cases hm : merge b o with
  | error e => rw [hm] at h; cases h
  | ok m =>
      rw [hm] at h
      exact ⟨m, rfl, (Except.ok.inj h).symm⟩

/-- Laying one upper entry puts its key with the laid value. -/
theorem mergeEntry_eq (acc : Entries) (k : String) (v : Value) :
    mergeEntry #[] merge acc (.str k) v =
      (laid merge (Entries.field? acc k) v).map fun w => Entries.putIn #[] (.str k) w acc := by
  unfold mergeEntry
  rw [Entries.findIn_empty_str]
  cases hf : Entries.field? acc k with
  | none => rfl
  | some old =>
      dsimp only
      split
      · rename_i b o hb ho
        rw [Value.deref_empty_eq_obj] at hb ho
        subst hb ho
        rw [laid_obj]
        cases merge b o <;> rfl
      · rename_i b o hb ho
        rw [Value.deref_empty_eq_list] at hb ho
        subst hb ho
        rfl
      · rename_i hobj hlist
        -- neither two objects nor two lists, once references are followed in the empty heap
        have hl : laid merge (some old) v = .ok v := by
          cases old with
          | obj b =>
              cases v with
              | obj o => exact (hobj b o rfl rfl).elim
              | _ => rfl
          | list b =>
              cases v with
              | list o => exact (hlist b o rfl rfl).elim
              | _ => rfl
          | _ => rfl
        rw [hl]
        rfl

/-! ## A fold over the upper entries -/

variable {merge} in
/-- Laying distinct text keys one after another: a key the upper entries do not have keeps its
lower value, a key they have holds its laid value over the lower one, and the keys are the lower
keys, then the new upper keys in their order. -/
theorem foldlM_mergeEntry :
    ∀ {ts : List (String × Value)}, (ts.map Prod.fst).Nodup → ∀ {acc m : Entries},
    (Entries.ofTextKeys ts).foldlM
        (fun acc (kv : Value × Value) => mergeEntry #[] merge acc kv.1 kv.2) acc = .ok m →
      (∀ k, ts.lookup k = none → Entries.field? m k = Entries.field? acc k) ∧
      (∀ k v, ts.lookup k = some v →
        ∃ w, laid merge (Entries.field? acc k) v = .ok w ∧ Entries.field? m k = some w) ∧
      m.map Prod.fst = layeredKeys acc (Entries.ofTextKeys ts)
  | [], _, acc, m, h => by
      cases h
      refine ⟨fun _ _ => rfl, fun k v hk => by simp at hk, ?_⟩
      simp [layeredKeys, Entries.ofTextKeys]
  | ⟨k0, v0⟩ :: ts, hnd, acc, m, h => by
      rw [List.map_cons, List.nodup_cons] at hnd
      obtain ⟨hk0, hnd⟩ := hnd
      have hk0 : k0 ∉ ts.map Prod.fst := hk0
      have hfresh : ∀ kv ∈ ts, k0 ≠ kv.1 := fun kv hkv he =>
        hk0 (he ▸ List.mem_map_of_mem (f := Prod.fst) hkv)
      rw [Entries.ofTextKeys_cons, List.foldlM_cons, mergeEntry_eq] at h
      cases hl : laid merge (Entries.field? acc k0) v0 with
      | error e => rw [hl] at h; cases h
      | ok w0 =>
          have hfold : (Entries.ofTextKeys ts).foldlM
              (fun acc (kv : Value × Value) => mergeEntry #[] merge acc kv.1 kv.2)
              (Entries.putIn #[] (.str k0) w0 acc) = .ok m := by
            rw [hl] at h
            exact h
          obtain ⟨hnone, hsome, hkeys⟩ := foldlM_mergeEntry hnd hfold
          -- the later keys are not `k0`, so the first step is left as it is
          have hrest : ts.lookup k0 = none := by
            refine List.lookup_eq_none_iff.2 fun kv hkv => ?_
            simpa using hfresh kv hkv
          refine ⟨fun k hk => ?_, fun k v hk => ?_, ?_⟩
          · have hne : k ≠ k0 := by
              rintro rfl
              simp at hk
            rw [lookup_cons_ne hne] at hk
            rw [hnone k hk, Entries.field?_putIn, if_neg (Ne.symm hne)]
          · by_cases hne : k = k0
            · subst hne
              simp only [List.lookup_cons, beq_self_eq_true, Option.some.injEq] at hk
              subst hk
              refine ⟨w0, hl, ?_⟩
              rw [hnone k hrest, Entries.field?_putIn, if_pos rfl]
            · rw [lookup_cons_ne hne] at hk
              obtain ⟨w, hw, hm⟩ := hsome k v hk
              refine ⟨w, ?_, hm⟩
              rwa [Entries.field?_putIn, if_neg (Ne.symm hne)] at hw
          · -- the new keys after the first are judged against the lower keys alone
            have hfilter : (ts.map fun kv => Value.str kv.1).filter
                  (fun key => !Entries.contains (Entries.putIn #[] (.str k0) w0 acc) key) =
                (ts.map fun kv => Value.str kv.1).filter
                  (fun key => !Entries.contains acc key) := by
              refine List.filter_congr fun key hkey => ?_
              obtain ⟨kv, hkv, rfl⟩ := List.mem_map.1 hkey
              rw [Entries.contains_putIn_ne (hfresh kv hkv)]
            rw [hkeys]
            unfold layeredKeys
            rw [Entries.map_fst_ofTextKeys, Entries.map_fst_ofTextKeys, hfilter,
              Entries.map_fst_putIn, List.map_cons, List.filter_cons]
            split <;> simp_all

end Laying

/-! ## The laws along a path -/

theorem mergeAt_succ (n : Nat) (base override : Entries) :
    mergeAt #[] (n + 1) base override =
      override.foldlM
        (fun acc (kv : Value × Value) => mergeEntry #[] (mergeAt #[] n) acc kv.1 kv.2) base := rfl

/-- A merge that returns had depth to spare, and lays each text key of the upper object. -/
theorem mergeAt_spec {n : Nat} {base override m : Entries} (hkeyed : (Value.obj override).TextKeyed)
    (h : mergeAt #[] n base override = .ok m) :
    ∃ (n' : Nat) (ts : List (String × Value)),
      n = n' + 1 ∧ override = Entries.ofTextKeys ts ∧
      (∀ kv ∈ ts, kv.2.TextKeyed) ∧
      (∀ k, ts.lookup k = none → Entries.field? m k = Entries.field? base k) ∧
      (∀ k v, ts.lookup k = some v →
        ∃ w, laid (mergeAt #[] n') (Entries.field? base k) v = .ok w ∧
          Entries.field? m k = some w) ∧
      m.map Prod.fst = layeredKeys base override := by
  obtain ⟨ts, rfl, hnd, hk⟩ := hkeyed.obj_inv
  cases n with
  | zero => cases h
  | succ n' =>
      obtain ⟨hnone, hsome, hkeys⟩ := foldlM_mergeEntry hnd h
      exact ⟨n', ts, rfl, rfl, hk, hnone, hsome, hkeys⟩

/-- Where the upper object holds a value that is not an object, the merge holds it, laid over the
lower value. -/
theorem upper_of_mergeAt : ∀ (p : List String) {n : Nat} {base override m : Entries},
    (Value.obj override).TextKeyed → mergeAt #[] n base override = .ok m →
    ∀ v, (Value.obj override).atPath p = some v → (∀ o, v ≠ .obj o) →
      (Value.obj m).atPath p = some (overValue ((Value.obj base).atPath p) v)
  | [], _, _, _, _, _, _, v, hp, hv => by
      simp only [Value.atPath_nil, Option.some.injEq] at hp
      exact absurd hp.symm (hv _)
  | k :: q, n, base, override, m, hkeyed, h, v, hp, hv => by
      obtain ⟨n', ts, rfl, rfl, hk, -, hsome, -⟩ := mergeAt_spec hkeyed h
      rw [Value.atPath_ofTextKeys_cons] at hp
      obtain ⟨v1, hv1, hq⟩ := Option.bind_eq_some_iff.1 hp
      obtain ⟨w, hw, hm⟩ := hsome k v1 hv1
      rw [Value.atPath_obj_cons, Value.atPath_obj_cons, hm]
      cases q with
      | nil =>
          -- the path ends at the key: the upper value is laid over the lower one
          simp only [Value.atPath_nil, Option.some.injEq] at hq
          subst hq
          rw [laid_of_not_obj _ _ hv] at hw
          cases hw
          cases Entries.field? base k <;> rfl
      | cons k2 q' =>
          -- the path goes on, so the upper value is an object
          obtain ⟨o1, rfl⟩ := Value.exists_obj_of_atPath_cons hq
          have hko := Value.TextKeyed.of_lookup hk hv1
          by_cases hb : ∃ b1, Entries.field? base k = some (.obj b1)
          · obtain ⟨b1, hb1⟩ := hb
            rw [hb1] at hw ⊢
            obtain ⟨m1, hm1, rfl⟩ := exists_of_laid_obj hw
            exact upper_of_mergeAt (k2 :: q') hko hm1 v hq hv
          · -- over anything but an object, the upper object replaces the lower value
            rw [laid_obj_of_not_obj _ (fun b e => hb ⟨b, e⟩)] at hw
            cases hw
            have hlow : (Entries.field? base k).bind (fun u => u.atPath (k2 :: q')) = none := by
              cases hf : Entries.field? base k with
              | none => rfl
              | some u =>
                  exact Value.atPath_cons_of_not_obj (fun b e => hb ⟨b, by rw [hf, e]⟩) k2 q'
            rw [hlow]
            exact hq

/-- Where only the lower object reaches, and the upper object holds objects wherever it reaches on
the way, the merge holds the lower value. -/
theorem lower_of_mergeAt : ∀ (p : List String) {n : Nat} {base override m : Entries},
    (Value.obj override).TextKeyed → mergeAt #[] n base override = .ok m →
    ∀ u, (Value.obj base).atPath p = some u → (Value.obj override).atPath p = none →
    (∀ q w, q <+: p → q ≠ p → (Value.obj override).atPath q = some w → ∃ o, w = .obj o) →
      (Value.obj m).atPath p = some u
  | [], _, _, _, _, _, _, u, _, ho, _ => by simp at ho
  | k :: q, n, base, override, m, hkeyed, h, u, hb, ho, hpre => by
      obtain ⟨n', ts, rfl, rfl, hk, hnone, hsome, -⟩ := mergeAt_spec hkeyed h
      rw [Value.atPath_obj_cons] at hb ⊢
      rw [Value.atPath_ofTextKeys_cons] at ho
      obtain ⟨u1, hu1, hq⟩ := Option.bind_eq_some_iff.1 hb
      cases hv : ts.lookup k with
      | none => rw [hnone k hv, hu1]; exact hq
      | some v1 =>
          rw [hv] at ho
          -- the upper object reaches `k`, so the path goes on past it, through an object
          have hq' : q ≠ [] := by
            rintro rfl
            simp at ho
          have hupper : (Value.obj (Entries.ofTextKeys ts)).atPath [k] = some v1 := by
            rw [Value.atPath_ofTextKeys_cons, hv]
            rfl
          obtain ⟨o1, rfl⟩ := hpre [k] v1 (List.cons_prefix_cons.2 ⟨rfl, List.nil_prefix⟩)
            (fun e => hq' (List.cons.inj e).2.symm) hupper
          obtain ⟨k2, q'', rfl⟩ := List.exists_cons_of_ne_nil hq'
          obtain ⟨b1, rfl⟩ := Value.exists_obj_of_atPath_cons hq
          obtain ⟨w, hw, hm⟩ := hsome k (.obj o1) hv
          rw [hu1] at hw
          obtain ⟨m1, hm1, rfl⟩ := exists_of_laid_obj hw
          rw [hm]
          refine lower_of_mergeAt (k2 :: q'') (Value.TextKeyed.of_lookup hk hv) hm1
            u hq ho fun q w hqp hqne hqw => hpre (k :: q) w (List.cons_prefix_cons.2 ⟨rfl, hqp⟩)
              (fun e => hqne (List.cons.inj e).2) ?_
          rw [Value.atPath_ofTextKeys_cons, hv]
          exact hqw

/-- Where both objects hold objects, the merge holds an object with the lower keys in their
order, then the new upper keys in theirs. -/
theorem keys_of_mergeAt : ∀ (q : List String) {n : Nat} {base override m : Entries},
    (Value.obj override).TextKeyed → mergeAt #[] n base override = .ok m →
    ∀ b o, (Value.obj base).atPath q = some (.obj b) →
      (Value.obj override).atPath q = some (.obj o) →
      ∃ m', (Value.obj m).atPath q = some (.obj m') ∧
        m'.map Prod.fst = layeredKeys b o
  | [], _, _, _, _, hkeyed, h, b, o, hb, ho => by
      simp only [Value.atPath_nil, Option.some.injEq, Value.obj.injEq] at hb ho
      subst hb ho
      obtain ⟨-, -, -, -, -, -, -, hkeys⟩ := mergeAt_spec hkeyed h
      exact ⟨_, rfl, hkeys⟩
  | k :: q, n, base, override, m, hkeyed, h, b, o, hb, ho => by
      obtain ⟨n', ts, rfl, rfl, hk, -, hsome, -⟩ := mergeAt_spec hkeyed h
      rw [Value.atPath_obj_cons] at hb ⊢
      rw [Value.atPath_ofTextKeys_cons] at ho
      obtain ⟨u1, hu1, hbq⟩ := Option.bind_eq_some_iff.1 hb
      obtain ⟨v1, hv1, hoq⟩ := Option.bind_eq_some_iff.1 ho
      obtain ⟨b1, rfl⟩ := Value.exists_obj_of_atPath hbq
      obtain ⟨o1, rfl⟩ := Value.exists_obj_of_atPath hoq
      obtain ⟨w, hw, hm⟩ := hsome k (.obj o1) hv1
      rw [hu1] at hw
      obtain ⟨m1, hm1, rfl⟩ := exists_of_laid_obj hw
      rw [hm]
      exact keys_of_mergeAt q (Value.TextKeyed.of_lookup hk hv1) hm1 b o hbq hoq

/-! ## The merge returns -/

/-- A merge with more depth than the upper object nests returns. -/
theorem mergeAt_ok : ∀ {n : Nat} {override : Entries}, (Value.obj override).TextKeyed →
    (Value.obj override).nesting ≤ n → ∀ base, ∃ m, mergeAt #[] n base override = .ok m
  | 0, _, _, hd, _ => by simp [Value.nesting] at hd
  | n + 1, override, hkeyed, hd, base => by
      obtain ⟨ts, rfl, -, hk⟩ := hkeyed.obj_inv
      rw [Value.nesting] at hd
      -- every upper entry is laid without running out of depth
      have hstep : ∀ kv ∈ ts, ∀ acc,
          ∃ w, laid (mergeAt #[] n) (Entries.field? acc kv.1) kv.2 = .ok w := by
        intro kv hkv acc
        have hkvd : kv.2.nesting ≤ n := by
          have hle : kv.2.nesting ≤ Value.entriesNesting (Entries.ofTextKeys ts) :=
            Value.nesting_le_entriesNesting
              (List.mem_map_of_mem (f := fun kv : String × Value => (Value.str kv.1, kv.2)) hkv)
          omega
        by_cases hobj : ∃ b o, Entries.field? acc kv.1 = some (.obj b) ∧ kv.2 = .obj o
        · obtain ⟨b, o, hb, ho⟩ := hobj
          rw [hb, ho, laid_obj]
          obtain ⟨m1, hm1⟩ := mergeAt_ok (ho ▸ hk kv hkv) (ho ▸ hkvd) b
          exact ⟨_, by rw [hm1]; rfl⟩
        · by_cases hv : ∃ o, kv.2 = .obj o
          · obtain ⟨o, ho⟩ := hv
            rw [ho, laid_obj_of_not_obj _ (fun b hb => hobj ⟨b, o, hb, ho⟩)]
            exact ⟨_, rfl⟩
          · exact ⟨_, laid_of_not_obj _ _ (fun o e => hv ⟨o, e⟩)⟩
      rw [mergeAt_succ]
      clear hd hk hkeyed
      induction ts generalizing base with
      | nil => exact ⟨base, rfl⟩
      | cons kv ts ih =>
          obtain ⟨w, hw⟩ := hstep kv List.mem_cons_self base
          obtain ⟨m, hm⟩ := ih (Entries.putIn #[] (.str kv.1) w base)
            (fun kv' h => hstep kv' (List.mem_cons_of_mem _ h))
          refine ⟨m, ?_⟩
          rw [Entries.ofTextKeys_cons, List.foldlM_cons, mergeEntry_eq, hw]
          exact hm

/-! ## Layering -/

/-- How a merged object relates to the two layers it was merged from, path by path. -/
structure Layered (base override merged : Entries) : Prop where
  /-- Where the upper object holds a value that is not an object, the merge holds it: the lower
  list extended by its other items when both are lists and it starts with `+`, else itself. -/
  upper : ∀ p v, (Value.obj override).atPath p = some v → (∀ o, v ≠ .obj o) →
    (Value.obj merged).atPath p = some (overValue ((Value.obj base).atPath p) v)
  /-- Where only the lower object reaches, and the upper object holds an object wherever it
  reaches on the way, the merge holds the lower value. -/
  lower : ∀ p u, (Value.obj base).atPath p = some u → (Value.obj override).atPath p = none →
    (∀ q w, q <+: p → q ≠ p → (Value.obj override).atPath q = some w → ∃ o, w = .obj o) →
    (Value.obj merged).atPath p = some u
  /-- Where both hold objects, the merge holds an object with the lower keys in their order, then
  the keys only the upper object has, in theirs. -/
  keys : ∀ q b o, (Value.obj base).atPath q = some (.obj b) →
    (Value.obj override).atPath q = some (.obj o) →
    ∃ m, (Value.obj merged).atPath q = some (.obj m) ∧
      m.map Prod.fst = layeredKeys b o

/-- Laying an upper object over a lower one, as JSON gives them, follows precedence path by path:
the upper object's values that are not objects win, lists starting with `+` extend the lower
list, the lower object's values stay where the upper object does not reach, and keys keep their
order, the lower ones first. The merge returns whenever the upper object nests objects no deeper
than `mergeDepth`, the depth past which the merge gives up as the interpreter's recursion limit
does. An absent upper layer is the empty object (`mergeObjects_nil`). -/
theorem mergeObjects_layered (base override : Entries) (hkeyed : (Value.obj override).TextKeyed) :
    ((Value.obj override).nesting ≤ mergeDepth → ∃ m, mergeObjects #[] base override = .ok m) ∧
      ∀ m, mergeObjects #[] base override = .ok m → Layered base override m :=
  ⟨fun hd => mergeAt_ok hkeyed hd base,
    fun _ hm => ⟨fun p => upper_of_mergeAt p hkeyed hm, fun p => lower_of_mergeAt p hkeyed hm,
      fun q => keys_of_mergeAt q hkeyed hm⟩⟩

section Nested

open Entries

/-- A nested object merges into the lower one, and a list starting with `+` extends the lower
list. -/
theorem mergeObjects_layered_nested :
    mergeObjects #[]
        (ofTextKeys [("a", .int 1), ("b", .obj (ofTextKeys [("c", .int 2)])), ("l", .list [.int 1])])
        (ofTextKeys [("b", .obj (ofTextKeys [("d", .int 3)])), ("l", .list [.str "+", .int 2])]) =
      .ok (ofTextKeys [("a", .int 1), ("b", .obj (ofTextKeys [("c", .int 2), ("d", .int 3)])),
        ("l", .list [.int 1, .int 2])]) ∧
    Layered
      (ofTextKeys [("a", .int 1), ("b", .obj (ofTextKeys [("c", .int 2)])), ("l", .list [.int 1])])
      (ofTextKeys [("b", .obj (ofTextKeys [("d", .int 3)])), ("l", .list [.str "+", .int 2])])
      (ofTextKeys [("a", .int 1), ("b", .obj (ofTextKeys [("c", .int 2), ("d", .int 3)])),
        ("l", .list [.int 1, .int 2])]) := by
  have hkeyed : (Value.obj (ofTextKeys [("b", .obj (ofTextKeys [("d", .int 3)])),
      ("l", .list [.str "+", .int 2])])).TextKeyed :=
    .obj _ (by decide) <| List.forall_mem_cons.2
      ⟨.obj _ (by decide) <| List.forall_mem_cons.2 ⟨.leaf nofun, nofun⟩,
        List.forall_mem_cons.2 ⟨.leaf nofun, nofun⟩⟩
  have hm : mergeObjects #[]
      (ofTextKeys [("a", .int 1), ("b", .obj (ofTextKeys [("c", .int 2)])), ("l", .list [.int 1])])
      (ofTextKeys [("b", .obj (ofTextKeys [("d", .int 3)])), ("l", .list [.str "+", .int 2])]) =
      .ok (ofTextKeys [("a", .int 1), ("b", .obj (ofTextKeys [("c", .int 2), ("d", .int 3)])),
        ("l", .list [.int 1, .int 2])]) := by rfl
  exact ⟨hm, (mergeObjects_layered _ _ hkeyed).2 _ hm⟩

end Nested

end Config

end Templating
