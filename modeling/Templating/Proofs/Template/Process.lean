import Templating.Proofs.Template.Build

/-!
# Rendering by overwriting a working copy

`Template.process` renders as a renderer does: it copies the segments and overwrites the copy
binding by binding, at the positions the index gives for each binding's keyword. A position is
owned by one keyword at most, so two bindings never overwrite the same position, and what a
position holds at the end depends only on the binding of its own keyword. With one binding for
each keyword, `process` is therefore the rendering read off position by position
(`process_positionwise`): the order of the bindings does not matter, bindings for keywords the
template does not have change nothing, and it agrees with `render` (`process_eq_render`).

## Implementation notes

The working copy is an array; its positions are read through `getElem?`, so a position past the
end needs no case of its own. The binding of a position's keyword is
`(t.keywordAt p).bind σ.lookup`: `none` when the position is literal text or its keyword is not
bound.
-/

namespace Templating

open Markup

/-! ## Positions and the index -/

/-- A table built from a list of keys has an entry for a key exactly when the key is listed. -/
theorem lookup_map_pair (P : String → List Nat) (L : List String) (k : String) :
    (L.map fun k' => (k', P k')).lookup k = if k ∈ L then some (P k) else none := by
  induction L with
  | nil => simp
  | cons k' L ih =>
      rw [List.map_cons, List.lookup_cons]
      by_cases hk : k = k'
      · subst hk
        simp
      · have hb : (k == k') = false := by simpa using hk
        simp only [hb, ih, List.mem_cons, hk, false_or]

namespace Template

variable (t : Template)

/-- The index has an entry for each keyword, holding the keyword's positions. -/
theorem index_lookup (k : String) :
    t.index.lookup k = if k ∈ t.keywords then some (t.positions k) else none :=
  lookup_map_pair t.positions t.keywords k

/-- A keyword's positions are the positions it owns. -/
theorem mem_positions (k : String) (q : Nat) : q ∈ t.positions k ↔ t.keywordAt q = some k := by
  simp only [positions, List.mem_filterMap, Option.ite_none_right_eq_some, Option.some.injEq,
    Prod.exists, List.mem_zipIdx_iff_getElem?, keywordAt]
  constructor
  · rintro ⟨p, i, hp, hk, rfl⟩
    simp [hp, hk]
  · intro h
    obtain ⟨p, hp, hk⟩ := Option.bind_eq_some_iff.1 h
    exact ⟨p, q, hp, hk, rfl⟩

/-- A keyword that owns a position is among the keywords. -/
theorem mem_keywords_of_keywordAt {q : Nat} {k : String} (h : t.keywordAt q = some k) :
    k ∈ t.keywords := by
  by_contra hk
  have hq := (t.mem_positions k q).2 h
  rw [positions_of_not_mem hk] at hq
  simp at hq

theorem length_segments : t.segments.length = t.length := by
  simp [segments, length]

end Template

/-! ## The working copy -/

/-- Overwriting some positions of a working copy with one part: a listed position takes the
part, any other keeps what it held. -/
theorem getElem?_foldl_setIfInBounds (ps : List Nat) (v : Option String)
    (w : Array (Option String)) (q : Nat) :
    (ps.foldl (fun w p => w.setIfInBounds p v) w)[q]? =
      if q ∈ ps then w[q]?.map fun _ => v else w[q]? := by
  induction ps generalizing w with
  | nil => simp
  | cons p ps ih =>
      rw [List.foldl_cons, ih, Array.getElem?_setIfInBounds]
      by_cases hp : p = q
      · subst hp
        by_cases hlt : p < w.size <;> simp [hlt]
      · simp [hp, Ne.symm hp]

/-- Overwriting positions keeps the size of the working copy. -/
theorem size_foldl_setIfInBounds (ps : List Nat) (v : Option String) (w : Array (Option String)) :
    (ps.foldl (fun w p => w.setIfInBounds p v) w).size = w.size := by
  induction ps generalizing w with
  | nil => rfl
  | cons p ps ih => rw [List.foldl_cons, ih, Array.size_setIfInBounds]

theorem size_foldl_fillKeyword (ix : List (String × List Nat)) (σ : Bindings)
    (w : Array (Option String)) : (σ.foldl (Template.fillKeyword ix) w).size = w.size := by
  induction σ generalizing w with
  | nil => rfl
  | cons b σ ih =>
      rw [List.foldl_cons, ih]
      unfold Template.fillKeyword
      split
      · rfl
      · exact size_foldl_setIfInBounds _ _ _

/-- One binding's turn overwrites exactly the positions its keyword owns. -/
theorem getElem?_fillKeyword (t : Template) (w : Array (Option String))
    (b : String × Option String) (q : Nat) :
    (Template.fillKeyword t.index w b)[q]? =
      if t.keywordAt q = some b.1 then w[q]?.map fun _ => b.2 else w[q]? := by
  unfold Template.fillKeyword
  rw [t.index_lookup]
  by_cases hk : b.1 ∈ t.keywords
  · simp only [hk, if_true]
    rw [getElem?_foldl_setIfInBounds]
    simp only [t.mem_positions]
  · -- a keyword the template does not have owns no position
    have hq : t.keywordAt q ≠ some b.1 := fun h => hk (t.mem_keywords_of_keywordAt h)
    simp [hk, hq]

/-- With one binding for each keyword, the bindings in turn leave each position holding the part
its keyword is bound to, or what it held when its keyword is not bound. -/
theorem getElem?_foldl_fillKeyword (t : Template) {σ : Bindings} (hσ : (σ.map Prod.fst).Nodup)
    (w : Array (Option String)) (q : Nat) :
    (σ.foldl (Template.fillKeyword t.index) w)[q]? =
      w[q]?.map fun part => ((t.keywordAt q).bind fun k => σ.lookup k).getD part := by
  induction σ generalizing w with
  | nil => cases t.keywordAt q <;> simp
  | cons b σ ih =>
      obtain ⟨k, v⟩ := b
      rw [List.map_cons, List.nodup_cons] at hσ
      obtain ⟨hk, hσ⟩ := hσ
      have hk : k ∉ σ.map Prod.fst := hk
      rw [List.foldl_cons, ih hσ, getElem?_fillKeyword]
      -- the later bindings do not bind `k` again
      have hrest : σ.lookup k = none := by
        refine List.lookup_eq_none_iff.2 fun b hb => ?_
        have hne : k ≠ b.1 := fun he => hk (by rw [he]; exact List.mem_map_of_mem hb)
        simpa using hne
      cases hq : t.keywordAt q with
      | none => simp
      | some k' =>
          by_cases hkk : k' = k
          · subst hkk
            cases w[q]? <;> simp [hrest]
          · have hb : (k' == k) = false := by simpa using hkk
            simp [hkk, List.lookup_cons, hb]

/-! ## Rendering position by position -/

namespace Template

/-- The part a position holds under the bindings: the part its keyword is bound to when its
keyword is bound, else its segment. -/
def partAt (t : Template) (σ : Bindings) (p : Nat) : Option String :=
  ((t.keywordAt p).bind fun k => σ.lookup k).getD (t.segments.getD p none)

/-- A list of texts is the rendering position by position when it holds each position's part,
`null` for an unset one. -/
theorem eq_map_range_partAt {ys : List String} {t : Template} {σ : Bindings}
    (hlen : ys.length = t.length)
    (h : ∀ q < t.length, ys[q]? = some ((t.partAt σ q).getD unsetText)) :
    ys = (List.range t.length).map fun p => (t.partAt σ p).getD unsetText := by
  apply List.ext_getElem?
  intro q
  by_cases hq : q < t.length
  · simp [h q hq, List.getElem?_range hq]
  · have hq' : t.length ≤ q := Nat.le_of_not_lt hq
    rw [List.getElem?_eq_none (hlen ▸ hq'), List.getElem?_eq_none (by simpa using hq')]

/-- Overwriting a working copy gives, under bindings with one entry for each keyword, the part
of each position. -/
theorem process_eq_join_partAt (t : Template) {σ : Bindings} (hσ : (σ.map Prod.fst).Nodup) :
    t.process σ =
      String.join ((List.range t.length).map fun p => (t.partAt σ p).getD unsetText) := by
  rw [process]
  congr 1
  apply eq_map_range_partAt
    (by rw [List.length_map, Array.length_toList, size_foldl_fillKeyword, List.size_toArray,
      length_segments])
  intro q hq
  have hseg : t.segments[q]? = some (t.segments.getD q none) := by
    rw [List.getD_eq_getElem?_getD, List.getElem?_eq_getElem (by rw [length_segments]; exact hq)]
    rfl
  rw [List.getElem?_map, Array.getElem?_toList, getElem?_foldl_fillKeyword t hσ,
    List.getElem?_toArray, hseg]
  rfl

/-- Rendering piece by piece is rendering position by position, whatever the bindings. -/
theorem render_eq_join_partAt (t : Template) (σ : Bindings) :
    t.render σ =
      String.join ((List.range t.length).map fun p => (t.partAt σ p).getD unsetText) := by
  unfold render
  congr 1
  apply eq_map_range_partAt (by simp [length])
  intro q hq
  obtain ⟨p, hp⟩ : ∃ p, t.pieces[q]? = some p := ⟨_, List.getElem?_eq_getElem hq⟩
  rw [List.getElem?_map, hp]
  cases p <;> simp [partAt, keywordAt, segments, List.getD_eq_getElem?_getD, hp, Piece.fill]

end Template

/-! ## Bindings -/

/-- With one entry for each key, a key is bound to a part exactly when the pair is an entry. -/
theorem lookup_eq_some_iff_mem {σ : Bindings} (hσ : (σ.map Prod.fst).Nodup) (k : String)
    (v : Option String) : σ.lookup k = some v ↔ (k, v) ∈ σ := by
  induction σ with
  | nil => simp
  | cons b σ ih =>
      obtain ⟨k', v'⟩ := b
      rw [List.map_cons, List.nodup_cons] at hσ
      rw [List.lookup_cons, List.mem_cons]
      by_cases hk : k = k'
      · subst hk
        -- `k` is bound once, by this entry
        have hnot : (k, v) ∉ σ := fun h =>
          hσ.1 (List.mem_map_of_mem (f := Prod.fst) h : k ∈ σ.map Prod.fst)
        simp [hnot, eq_comm]
      · have hb : (k == k') = false := by simpa using hk
        simp [hb, hk, ih hσ.2]

/-- Bindings with one entry for each key bind every key the same way in any order. -/
theorem lookup_eq_of_perm {σ σ' : Bindings} (h : σ'.Perm σ) (hσ : (σ.map Prod.fst).Nodup)
    (k : String) : σ'.lookup k = σ.lookup k := by
  have hσ' : (σ'.map Prod.fst).Nodup := ((h.map Prod.fst).nodup_iff).2 hσ
  apply Option.ext
  intro v
  rw [lookup_eq_some_iff_mem hσ', lookup_eq_some_iff_mem hσ, h.mem_iff]

namespace Template

/-- Rendering by overwriting a working copy is rendering position by position, under any map of
replacements, given as bindings with one entry for each keyword: a position owned by a bound
keyword holds the part the keyword is bound to, and any other position its segment, with `null`
for a part that is unset. So the order of the bindings does not matter, and neither do bindings
for keywords that have no entry in the index. -/
theorem process_positionwise (t : Template) (σ : Bindings) (hσ : (σ.map Prod.fst).Nodup) :
    t.process σ =
        String.join ((List.range t.length).map fun p =>
          (((t.keywordAt p).bind fun k => σ.lookup k).getD (t.segments.getD p none)).getD
            unsetText) ∧
      (∀ σ' : Bindings, σ'.Perm σ → t.process σ' = t.process σ) ∧
      (∀ extra : Bindings, ((σ ++ extra).map Prod.fst).Nodup →
        (∀ b ∈ extra, t.index.lookup b.1 = none) → t.process (σ ++ extra) = t.process σ) := by
  have hpos := t.process_eq_join_partAt hσ
  refine ⟨hpos, fun σ' hperm => ?_, fun extra hnd hextra => ?_⟩
  · have hσ' : (σ'.map Prod.fst).Nodup := ((hperm.map Prod.fst).nodup_iff).2 hσ
    rw [t.process_eq_join_partAt hσ', hpos]
    simp only [partAt, lookup_eq_of_perm hperm hσ]
  · -- a keyword that owns a position has an entry in the index, so no extra binding binds it
    have hpart : ∀ p, t.partAt (σ ++ extra) p = t.partAt σ p := by
      intro p
      unfold partAt
      cases hq : t.keywordAt p with
      | none => rfl
      | some k =>
          have hk : extra.lookup k = none := by
            refine List.lookup_eq_none_iff.2 fun b hb => ?_
            have hne : k ≠ b.1 := by
              intro he
              have hidx := hextra b hb
              rw [← he, t.index_lookup, if_pos (t.mem_keywords_of_keywordAt hq)] at hidx
              exact Option.some_ne_none _ hidx
            simpa using hne
          simp [List.lookup_append, hk]
    rw [t.process_eq_join_partAt hnd, hpos]
    simp only [hpart]

/-- Binding a template's two keywords in either order, with or without a binding for a keyword
it does not have, renders the same. -/
theorem process_positionwise_reordered :
    (Template.mk [.text "Hi ", .slot "name" (some "you"), .text "!", .slot "x" none]).process
        [("name", none), ("x", some "X")] =
      (Template.mk [.text "Hi ", .slot "name" (some "you"), .text "!", .slot "x" none]).process
        ([("x", some "X"), ("name", none)] ++ [("y", some "Y")]) := by
  obtain ⟨-, hperm, hextra⟩ := process_positionwise
    ⟨[.text "Hi ", .slot "name" (some "you"), .text "!", .slot "x" none]⟩
    [("x", some "X"), ("name", none)] (by decide)
  rw [hperm _ (List.Perm.swap _ _ []), hextra _ (by decide) (by decide)]

/-- Under bindings with one entry for each keyword, overwriting a working copy renders as
filling each piece does. -/
theorem process_eq_render (t : Template) {σ : Bindings} (hσ : (σ.map Prod.fst).Nodup) :
    t.process σ = t.render σ := by
  rw [t.process_eq_join_partAt hσ, t.render_eq_join_partAt]

end Template

end Templating
