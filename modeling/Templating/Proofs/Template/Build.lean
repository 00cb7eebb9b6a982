import Mathlib.Data.List.Chain
import Templating.Template.Builder

/-!
# What a builder run builds

A run of builder steps from a fresh builder is fixed by the pieces its steps append, read in
order: the built template holds them with every maximal run of literal pieces merged into one
(`coalesce`), and the index the builder records is the one the template reads off those pieces.
Rendering the built template is then rendering each step on its own and joining the texts.

## Implementation notes

`coalesce` is a right fold that joins a literal to a literal in front of it, while the builder
appends on the right; `addPiece_coalesce` says that the two orders agree. The recorded index is
carried in the invariant `Builder.Coherent`, which every step keeps.
-/

namespace Templating

open Markup

/-! ## Merging runs of literals -/

/-- Puts a piece in front of pieces: a literal in front of a literal joins it. -/
def consMerge : Piece → List Piece → List Piece
  | .text a, .text b :: r => .text (a ++ b) :: r
  | .text a, .slot k d :: r => .text a :: .slot k d :: r
  | .text a, [] => [.text a]
  | .slot k d, r => .slot k d :: r

@[simp] theorem consMerge_text_text (a b : String) (r : List Piece) :
    consMerge (.text a) (.text b :: r) = .text (a ++ b) :: r := rfl

@[simp] theorem consMerge_text_slot (a k : String) (d : Option String) (r : List Piece) :
    consMerge (.text a) (.slot k d :: r) = .text a :: .slot k d :: r := rfl

@[simp] theorem consMerge_text_nil (a : String) : consMerge (.text a) [] = [.text a] := rfl

@[simp] theorem consMerge_slot (k : String) (d : Option String) (r : List Piece) :
    consMerge (.slot k d) r = .slot k d :: r := rfl

/-- The pieces with every maximal run of literal pieces merged into one literal, texts in order.
A literal that stands alone is kept, even when it is empty. -/
def coalesce (ps : List Piece) : List Piece := ps.foldr consMerge []

@[simp] theorem coalesce_nil : coalesce [] = [] := rfl

@[simp] theorem coalesce_cons (p : Piece) (ps : List Piece) :
    coalesce (p :: ps) = consMerge p (coalesce ps) := rfl

/-- Joining two literals in turn is joining their texts first. -/
theorem consMerge_consMerge (a b : String) (r : List Piece) :
    consMerge (.text a) (consMerge (.text b) r) = consMerge (.text (a ++ b)) r := by
  match r with
  | .text c :: r => simp [String.append_assoc]
  | .slot k d :: r => simp
  | [] => simp

/-- Folding pieces in front of a merged piece is folding them in front of its two parts. -/
theorem foldr_consMerge (r : List Piece) (p : Piece) (l : List Piece) :
    (consMerge p l).foldr consMerge r = consMerge p (l.foldr consMerge r) := by
  match p, l with
  | .text a, .text b :: l => simp [consMerge_consMerge]
  | .text a, .slot k d :: l => simp
  | .text a, [] => simp
  | .slot k d, l => simp

/-- Merging the front part first changes nothing. -/
theorem coalesce_coalesce_append (xs ys : List Piece) :
    coalesce (coalesce xs ++ ys) = coalesce (xs ++ ys) := by
  induction xs with
  | nil => simp
  | cons x xs ih =>
      simp only [coalesce, List.foldr_append] at ih ⊢
      rw [List.foldr_cons, foldr_consMerge, ih, List.foldr_cons]

theorem coalesce_idem (xs : List Piece) : coalesce (coalesce xs) = coalesce xs := by
  simpa using coalesce_coalesce_append xs []

/-- Merging the back part first changes nothing. -/
theorem coalesce_append_coalesce (xs ys : List Piece) :
    coalesce (xs ++ coalesce ys) = coalesce (xs ++ ys) := by
  simp only [coalesce, List.foldr_append]
  rw [← coalesce, ← coalesce, coalesce_idem]

/-- Putting a piece in front of pieces with no two literals side by side keeps it so. -/
theorem isChain_consMerge (p : Piece) {qs : List Piece}
    (h : qs.IsChain (fun a b => a.isSlot ∨ b.isSlot)) :
    (consMerge p qs).IsChain (fun a b => a.isSlot ∨ b.isSlot) := by
  match p, qs, h with
  | .text a, .text b :: r, h =>
      -- what follows `b` is a slot, so it may follow the joined literal too
      cases r with
      | nil => simp
      | cons q r => simp_all [Piece.isSlot]
  | .text a, .slot k d :: r, h => simp_all [Piece.isSlot]
  | .text a, [], _ => simp
  | .slot k d, [], _ => simp
  | .slot k d, q :: r, h => simp_all [Piece.isSlot]

/-- Merged pieces have no two literals side by side. -/
theorem isChain_coalesce (ps : List Piece) :
    (coalesce ps).IsChain (fun a b => a.isSlot ∨ b.isSlot) := by
  induction ps with
  | nil => exact List.IsChain.nil
  | cons p ps ih => exact isChain_consMerge p ih

/-- A piece followed by others is not where appending happens. -/
theorem addPiece_cons_cons (y z : Piece) (r : List Piece) (p : Piece) :
    addPiece (y :: z :: r) p = y :: addPiece (z :: r) p := by
  cases p with
  | slot k d => simp [addPiece]
  | text s =>
      cases h : (z :: r).getLast? with
      | none => simp [addPiece, h]
      | some q => cases q <;> simp [addPiece, h]

/-- Appending after a slot never merges, so it happens behind the slot. -/
theorem addPiece_slot_cons (k : String) (d : Option String) (r : List Piece) (p : Piece) :
    addPiece (.slot k d :: r) p = .slot k d :: addPiece r p := by
  cases r with
  | nil => cases p <;> simp [addPiece]
  | cons z r => exact addPiece_cons_cons _ z r p

/-- Appending on the right commutes with merging on the left. -/
theorem addPiece_consMerge (x : Piece) (r : List Piece) (p : Piece) :
    addPiece (consMerge x r) p = consMerge x (addPiece r p) := by
  match x, r, p with
  | .text a, [.text b], .text s => simp [addPiece, String.append_assoc]
  | .text a, [.text b], .slot k d => simp [addPiece]
  | .text a, .text b :: c :: r, p => simp [addPiece_cons_cons]
  | .text a, .slot k d :: r, p => simp [addPiece_cons_cons, addPiece_slot_cons]
  | .text a, [], .text s => simp [addPiece]
  | .text a, [], .slot k d => simp [addPiece]
  | .slot k d, r, p => simp [addPiece_slot_cons]

/-- The builder's way of appending one piece agrees with merging the whole list. -/
theorem addPiece_coalesce (xs : List Piece) (p : Piece) :
    addPiece (coalesce xs) p = coalesce (xs ++ [p]) := by
  induction xs with
  | nil => cases p <;> simp [addPiece, consMerge]
  | cons x xs ih => rw [coalesce_cons, addPiece_consMerge, ih, List.cons_append, coalesce_cons]

/-- Appending pieces to merged pieces merges the whole list. -/
theorem addPieces_coalesce (xs items : List Piece) :
    addPieces (coalesce xs) items = coalesce (xs ++ items) := by
  induction items generalizing xs with
  | nil => simp [addPieces]
  | cons p items ih =>
      rw [addPieces_eq_foldl, List.foldl_cons, addPiece_coalesce, ← addPieces_eq_foldl, ih,
        List.append_assoc, List.singleton_append]

theorem addPieces_nil (items : List Piece) : addPieces [] items = coalesce items := by
  simpa using addPieces_coalesce [] items

/-- A text compiles to its tokens with their literals merged. -/
theorem Template.compile_eq_coalesce (s : String) : Template.compile s = ⟨coalesce (tokens s)⟩ := by
  rw [Template.compile, addPieces_nil]

/-! ## The index read off the pieces -/

/-- Each value is kept once, at its first place. -/
theorem nodup_eraseDups : (l : List String) → l.eraseDups.Nodup
  | [] => by simp
  | a :: as => by
      have hrest := nodup_eraseDups (as.filter fun b => !b == a)
      rw [List.eraseDups_cons, List.nodup_cons]
      refine ⟨?_, hrest⟩
      rw [List.mem_eraseDups]
      simp
termination_by l => l.length
decreasing_by
  have := List.length_filter_le (fun b => !b == a) as
  simp only [List.length_cons]
  omega

/-- Recording a slot in an index read off keys puts its position after the key's others, and
opens the key at the end when it is new. -/
theorem recordSlot_map (k : String) (n : Nat) (P : String → List Nat) :
    ∀ L : List String, L.Nodup → (k ∉ L → P k = []) →
      recordSlot k n (L.map fun k' => (k', P k')) =
        (L ++ if k ∈ L then [] else [k]).map fun k' => (k', P k' ++ if k' = k then [n] else [])
  | [], _, hk => by simp [recordSlot, hk]
  | k' :: L, hnd, hk => by
      obtain ⟨hk'L, hL⟩ := List.nodup_cons.1 hnd
      by_cases he : k' = k
      · subst he
        have hrest : ∀ x ∈ L, (x, P x) = (x, P x ++ if x = k' then [n] else []) := by
          intro x hx
          have : x ≠ k' := fun e => hk'L (e ▸ hx)
          simp [this]
        simp [recordSlot, List.map_congr_left hrest]
      · have hkL : k ∉ L → P k = [] := fun h => hk (by simp [h, Ne.symm he])
        have hmem : (k ∈ k' :: L) = (k ∈ L) := by simp [Ne.symm he]
        simp only [List.map_cons, recordSlot, if_neg he, List.cons_append, hmem]
        rw [recordSlot_map k n P L hL hkL]
        simp

namespace Template

/-- A literal at the end owns no position. -/
theorem keywords_append_text (ps : List Piece) (s : String) :
    (Template.mk (ps ++ [.text s])).keywords = (Template.mk ps).keywords := by
  simp [keywords, List.filterMap_cons]

theorem nodup_keywords (ps : List Piece) : (Template.mk ps).keywords.Nodup :=
  nodup_eraseDups _

theorem positions_append_text (ps : List Piece) (s k : String) :
    (Template.mk (ps ++ [.text s])).positions k = (Template.mk ps).positions k := by
  simp [positions, List.zipIdx_append]

theorem index_append_text (ps : List Piece) (s : String) :
    (Template.mk (ps ++ [.text s])).index = (Template.mk ps).index := by
  simp only [index, keywords_append_text, positions_append_text]

/-- A slot at the end brings its keyword in last, unless the keyword is there already. -/
theorem keywords_append_slot (ps : List Piece) (k : String) (d : Option String) :
    (Template.mk (ps ++ [.slot k d])).keywords =
      (Template.mk ps).keywords ++ if k ∈ (Template.mk ps).keywords then [] else [k] := by
  simp only [keywords, List.filterMap_append, List.filterMap_cons, Piece.keyword?_slot,
    List.filterMap_nil, List.eraseDups_append, List.mem_eraseDups]
  by_cases h : k ∈ ps.filterMap Piece.keyword?
  · simp only [h, if_true]
    simp only [List.mem_filterMap] at h
    simp [List.removeAll, h]
  · simp only [h, if_false]
    simp only [List.mem_filterMap] at h
    simp [List.removeAll, h, List.eraseDups_cons]

theorem positions_append_slot (ps : List Piece) (k : String) (d : Option String) (k' : String) :
    (Template.mk (ps ++ [.slot k d])).positions k' =
      (Template.mk ps).positions k' ++ if k' = k then [ps.length] else [] := by
  by_cases h : k' = k
  · subst h; simp [positions, List.zipIdx_append]
  · simp [positions, List.zipIdx_append, h, Ne.symm h]

/-- A keyword that is not among the keywords owns no position. -/
theorem positions_of_not_mem {ps : List Piece} {k : String}
    (h : k ∉ (Template.mk ps).keywords) : (Template.mk ps).positions k = [] := by
  simp only [keywords, List.mem_eraseDups, List.mem_filterMap] at h
  simp only [positions, List.filterMap_eq_nil_iff]
  rintro ⟨p, i⟩ hp
  by_cases hk : p.keyword? = some k
  · exact absurd ⟨p, List.fst_mem_of_mem_zipIdx hp, hk⟩ h
  · simp [hk]

/-- Appending a slot records its position as the builder does. -/
theorem index_append_slot (ps : List Piece) (k : String) (d : Option String) :
    (Template.mk (ps ++ [.slot k d])).index = recordSlot k ps.length (Template.mk ps).index := by
  rw [index, index, recordSlot_map k ps.length _ _ (nodup_keywords ps) positions_of_not_mem,
    keywords_append_slot]
  simp only [positions_append_slot]

/-- Appending a literal, joined to the last one or not, leaves the index as it is. -/
theorem index_addPiece_text (ps : List Piece) (s : String) :
    (Template.mk (addPiece ps (.text s))).index = (Template.mk ps).index := by
  rcases List.eq_nil_or_concat ps with rfl | ⟨ps', z, rfl⟩
  · simp [addPiece, index, keywords, List.filterMap_cons]
  · cases z with
    | text t =>
        have h : addPiece (ps' ++ [.text t]) (.text s) = ps' ++ [.text (t ++ s)] := by
          simp [addPiece]
        rw [List.concat_eq_append, h, index_append_text, index_append_text]
    | slot k d =>
        have h : addPiece (ps' ++ [.slot k d]) (.text s) = (ps' ++ [.slot k d]) ++ [.text s] := by
          simp [addPiece]
        rw [List.concat_eq_append, h, index_append_text]

end Template

/-! ## Runs -/

namespace Builder

variable {b b' : Builder}

/-- Text appended to pieces that end in a literal extends that literal. -/
theorem extendLast_eq_addPiece {ps : List Piece} (h : endsInLiteral ps = true) (s : String) :
    extendLast ps s = addPiece ps (.text s) := by
  cases hl : ps.getLast? with
  | none => simp [endsInLiteral, hl] at h
  | some q =>
      cases q with
      | text t => simp [extendLast, addPiece, hl]
      | slot k d => simp [endsInLiteral, hl] at h

/-- Text appended to pieces that do not end in a literal is a piece of its own. -/
theorem append_text_eq_addPiece {ps : List Piece} (h : endsInLiteral ps = false) (s : String) :
    ps ++ [.text s] = addPiece ps (.text s) := by
  cases hl : ps.getLast? with
  | none => simp [addPiece, hl]
  | some q =>
      cases q with
      | text t => simp [endsInLiteral, hl] at h
      | slot k d => simp [addPiece, hl]

theorem endsInLiteral_iff {ps : List Piece} :
    endsInLiteral ps = true ↔ ∃ s, ps.getLast? = some (.text s) := by
  unfold endsInLiteral
  split <;> simp_all

@[simp] theorem endsInLiteral_addPiece_text (ps : List Piece) (s : String) :
    endsInLiteral (addPiece ps (.text s)) = true := by
  simp only [addPiece]
  split <;> simp [endsInLiteral]

@[simp] theorem endsInLiteral_append_slot (ps : List Piece) (k : String) (d : Option String) :
    endsInLiteral (ps ++ [.slot k d]) = false := by
  simp [endsInLiteral]

@[simp] theorem add_spent (b : Builder) (p : Piece) : (b.add p).spent = b.spent := by
  cases p with
  | text s => simp only [add]; split <;> rfl
  | slot k d => rfl

@[simp] theorem add_index_text (b : Builder) (s : String) : (b.add (.text s)).index = b.index := by
  simp only [add]; split <;> rfl

/-- Appending text leaves a literal open. -/
@[simp] theorem add_literalOpen_text (b : Builder) (s : String) :
    (b.add (.text s)).literalOpen = true := by
  simp only [add]; split <;> simp_all

theorem foldl_add_spent (b : Builder) (items : List Piece) :
    (items.foldl add b).spent = b.spent := by
  induction items generalizing b with
  | nil => rfl
  | cons p items ih => rw [List.foldl_cons, ih, add_spent]

/-- What every builder that a run reaches keeps: no two literals stand side by side, the index
it has recorded is the one its pieces give, and its literal is open exactly when its pieces end
in a literal. -/
structure Coherent (b : Builder) : Prop where
  merged : coalesce b.pieces = b.pieces
  recordsIndex : b.index = b.template.index
  literalOpen : b.literalOpen = endsInLiteral b.pieces

theorem coherent_fresh : ({} : Builder).Coherent := ⟨rfl, rfl, rfl⟩

/-- Two coherent builders with the same pieces differ at most in being spent. -/
theorem Coherent.ext {b₁ b₂ : Builder} (h₁ : b₁.Coherent) (h₂ : b₂.Coherent)
    (hp : b₁.pieces = b₂.pieces) (hs : b₁.spent = b₂.spent) : b₁ = b₂ := by
  have hi : b₁.index = b₂.index := by rw [h₁.recordsIndex, h₂.recordsIndex, template, template, hp]
  have hl : b₁.literalOpen = b₂.literalOpen := by rw [h₁.literalOpen, h₂.literalOpen, hp]
  cases b₁
  cases b₂
  simp_all

/-- A coherent builder appends a piece as `addPiece` does: its flag says whether the pieces end
in a literal, so text extends exactly a literal that ends them. -/
theorem Coherent.add_pieces (h : b.Coherent) (p : Piece) :
    (b.add p).pieces = addPiece b.pieces p := by
  cases p with
  | slot k d => rfl
  | text s =>
      cases hl : b.literalOpen
      · simp only [add, hl, Bool.false_eq_true, if_false]
        exact append_text_eq_addPiece (h.literalOpen.symm.trans hl) s
      · simp only [add, hl, if_true]
        exact extendLast_eq_addPiece (h.literalOpen.symm.trans hl) s

/-- Appending a piece keeps a builder coherent: a literal moves no slot, a slot's position is
recorded where reading the pieces finds it, and the flag follows the last piece. -/
theorem coherent_add (h : b.Coherent) (p : Piece) : (b.add p).Coherent where
  merged := by rw [h.add_pieces, ← h.merged, addPiece_coalesce, coalesce_idem]
  recordsIndex := by
    rw [template, h.add_pieces]
    cases p with
    | text s =>
        rw [Template.index_addPiece_text, add_index_text]
        exact h.recordsIndex
    | slot k d =>
        change recordSlot k b.pieces.length b.index = (Template.mk (b.pieces ++ [.slot k d])).index
        rw [Template.index_append_slot, h.recordsIndex]
        rfl
  literalOpen := by
    rw [h.add_pieces]
    cases p with
    | text s => rw [add_literalOpen_text, endsInLiteral_addPiece_text]
    | slot k d => exact (endsInLiteral_append_slot _ k d).symm

theorem Coherent.foldl_add (h : b.Coherent) (items : List Piece) :
    (items.foldl Builder.add b).Coherent := by
  induction items generalizing b with
  | nil => exact h
  | cons p items ih => exact ih (coherent_add h p)

theorem Coherent.foldl_add_pieces (h : b.Coherent) (items : List Piece) :
    (items.foldl add b).pieces = addPieces b.pieces items := by
  induction items generalizing b with
  | nil => simp [addPieces]
  | cons p items ih =>
      rw [List.foldl_cons, ih (coherent_add h p), h.add_pieces, addPieces_eq_foldl, addPieces_eq_foldl]
      rfl

/-- What a step can do: build a builder that is not spent, or append the step's pieces to one. -/
theorem step_cases {s : Step} {t : Option Template} (hs : b.step s = .ok (b', t)) :
    (s.check = .build ∧ b.spent = false ∧ b' = { b with spent := true } ∧ t = some b.template) ∨
      (s.check ≠ .build ∧ b.spent = false ∧ b' = s.items.foldl add b ∧ t = none) := by
  cases s with
  | build =>
      refine .inl ⟨rfl, ?_⟩
      cases hb : b.spent <;> simp_all [step, build, Except.map]
  | append x | reserve k d | appendTemplate src | format src =>
      refine .inr ⟨by simp [Step.check], ?_⟩
      cases hb : b.spent <;> simp_all [step]

/-- Every step keeps a builder coherent. -/
theorem Coherent.step (h : b.Coherent) {s : Step} {t : Option Template}
    (hs : b.step s = .ok (b', t)) : b'.Coherent := by
  rcases step_cases hs with ⟨-, -, rfl, -⟩ | ⟨-, -, rfl, -⟩
  · exact ⟨h.merged, h.recordsIndex, h.literalOpen⟩
  · exact h.foldl_add _

/-- Every run keeps a builder coherent. -/
theorem Coherent.run (h : b.Coherent) {steps : List Step} (hr : b.run steps = .ok b') :
    b'.Coherent := by
  induction steps generalizing b with
  | nil => cases hr; exact h
  | cons s steps ih =>
      simp only [run, bind, Except.bind] at hr
      split at hr
      · cases hr
      · rename_i bt hs
        exact ih (h.step hs) hr

/-- A step other than `build` appends its pieces to a builder that is not spent. -/
theorem step_append {s : Step} (hb : b.spent = false) (hs : s.check ≠ .build) :
    b.step s = .ok (s.items.foldl add b, none) := by
  cases s with
  | build => exact absurd rfl hs
  | append x | reserve k d | appendTemplate src | format src => simp [step, hb]

/-- A run of steps other than `build` appends their pieces one after another. -/
theorem run_append {steps : List Step} (hb : b.spent = false) (h : ∀ s ∈ steps, s.check ≠ .build) :
    b.run steps = .ok ((steps.flatMap Step.items).foldl add b) := by
  induction steps generalizing b with
  | nil => rfl
  | cons s steps ih =>
      have hs := step_append hb (h s List.mem_cons_self)
      have hrest := ih (b := s.items.foldl add b) (by rw [foldl_add_spent, hb])
        (fun s' hs' => h s' (List.mem_cons_of_mem _ hs'))
      simp only [run, hs, bind, Except.bind, hrest, List.flatMap_cons, List.foldl_append]

/-- From a fresh builder, appending pieces gives their merged form, the index it gives, and a
literal open exactly when they end in one. -/
theorem foldl_add_fresh (items : List Piece) :
    items.foldl add {} =
      { pieces := coalesce items, index := (Template.mk (coalesce items)).index,
        literalOpen := endsInLiteral (coalesce items) } := by
  have hc : Builder.Coherent
      { pieces := coalesce items, index := (Template.mk (coalesce items)).index,
        literalOpen := endsInLiteral (coalesce items) } :=
    ⟨coalesce_idem items, rfl, rfl⟩
  apply (coherent_fresh.foldl_add items).ext hc
  · rw [coherent_fresh.foldl_add_pieces, addPieces_nil]
  · exact foldl_add_spent _ _

theorem run_steps_append (b : Builder) (xs ys : List Step) :
    b.run (xs ++ ys) = (b.run xs).bind (·.run ys) := by
  induction xs generalizing b with
  | nil => rfl
  | cons s xs ih =>
      simp only [List.cons_append, run, bind, Except.bind]
      split
      · rfl
      · exact ih _

/-- Composing a text and composing the template it compiles to do the same to a coherent
builder: the template's pieces are the text's pieces with their literals merged. -/
theorem step_compose_compile (h : b.Coherent) (s : String) :
    b.step (.appendTemplate (.text s)) = b.step (.appendTemplate (.template (Template.compile s))) := by
  cases hb : b.spent
  · rw [step_append hb (by simp [Step.check]), step_append hb (by simp [Step.check])]
    have hp : ((Step.appendTemplate (.text s)).items.foldl add b).pieces =
        ((Step.appendTemplate (.template (Template.compile s))).items.foldl add b).pieces := by
      simp only [h.foldl_add_pieces, Step.items, Source.items, Template.compile_eq_coalesce]
      rw [← h.merged, addPieces_coalesce, addPieces_coalesce, coalesce_append_coalesce]
    rw [(h.foldl_add _).ext (h.foldl_add _) hp (by rw [foldl_add_spent, foldl_add_spent])]
  · simp [step, hb, Step.check]

end Builder

/-- A run of steps other than `build` from a fresh builder holds the merged pieces of the steps,
the index they give, and a literal open exactly when they end in one. -/
theorem Builder.run_fresh {steps : List Step} (h : ∀ s ∈ steps, s.check ≠ .build) :
    ({} : Builder).run steps =
      .ok { pieces := coalesce (steps.flatMap Step.items),
            index := (Template.mk (coalesce (steps.flatMap Step.items))).index,
            literalOpen := endsInLiteral (coalesce (steps.flatMap Step.items)) } := by
  rw [Builder.run_append (b := {}) rfl h, Builder.foldl_add_fresh]

/-- A run of steps other than `build` from a fresh builder builds the merged pieces of the
steps. -/
theorem ofSteps_eq_coalesce {steps : List Step} (h : ∀ s ∈ steps, s.check ≠ .build) :
    Template.ofSteps steps = .ok ⟨coalesce (steps.flatMap Step.items)⟩ := by
  rw [Template.ofSteps, Builder.run_fresh h]
  rfl

/-- A template that a run builds has no two literals side by side. -/
theorem ofSteps_merged {steps : List Step} {t : Template} (h : Template.ofSteps steps = .ok t) :
    coalesce t.pieces = t.pieces := by
  simp only [Template.ofSteps, bind, Except.bind] at h
  split at h
  · cases h
  · rename_i b hr
    simp only [Builder.build] at h
    split at h
    · cases h
    · rename_i v hv
      split at hv
      · cases hv
      · cases hv
        cases h
        exact (Builder.coherent_fresh.run hr).merged

/-- A run of steps other than `build` from a fresh builder, followed by `build`, gives the pieces
of the steps in order with every run of literals merged into one, each slot a piece of its own
with its default; the builder has recorded the index those pieces give: the keywords in order of
their first slot, each with the positions of its slots in increasing order; and it holds a
literal open exactly when the pieces end in a literal. Composing a text and
composing the template it compiles to build the same template, whatever comes before and
after. -/
theorem run_normalForm (steps : List Step) (h : ∀ s ∈ steps, s.check ≠ .build) :
    ({} : Builder).run steps =
        .ok { pieces := coalesce (steps.flatMap Step.items),
              index := (Template.mk (coalesce (steps.flatMap Step.items))).index,
              literalOpen := endsInLiteral (coalesce (steps.flatMap Step.items)) } ∧
      Template.ofSteps steps = .ok ⟨coalesce (steps.flatMap Step.items)⟩ ∧
      ∀ (pre post : List Step) (s : String),
        Template.ofSteps (pre ++ .appendTemplate (.text s) :: post) =
          Template.ofSteps (pre ++ .appendTemplate (.template (Template.compile s)) :: post) := by
  refine ⟨Builder.run_fresh h, ofSteps_eq_coalesce h, ?_⟩
  intro pre post s
  simp only [Template.ofSteps, Builder.run_steps_append]
  cases hp : ({} : Builder).run pre with
  | error e => rfl
  | ok b =>
      -- the builder after `pre` is coherent, so both compositions step it alike
      have hb : b.Coherent := Builder.coherent_fresh.run hp
      simp only [bind, Except.bind, Builder.run, Builder.step_compose_compile hb]

theorem run_normalForm_greeting :
    (∀ s ∈ [Step.append "Hi ", .reserve "name" none, .format (.text "! ${name:you}")],
        s.check ≠ .build) ∧
      ({} : Builder).run [Step.append "Hi ", .reserve "name" none,
          .format (.text "! ${name:you}")] =
        .ok { pieces := coalesce ([Step.append "Hi ", .reserve "name" none,
                .format (.text "! ${name:you}")].flatMap Step.items),
              index := (Template.mk (coalesce ([Step.append "Hi ", .reserve "name" none,
                .format (.text "! ${name:you}")].flatMap Step.items))).index,
              literalOpen := endsInLiteral (coalesce ([Step.append "Hi ", .reserve "name" none,
                .format (.text "! ${name:you}")].flatMap Step.items)) } ∧
      Template.ofSteps [Step.append "Hi ", .reserve "name" none,
          .format (.text "! ${name:you}")] =
        .ok ⟨coalesce ([Step.append "Hi ", .reserve "name" none,
          .format (.text "! ${name:you}")].flatMap Step.items)⟩ ∧
      ∀ (pre post : List Step) (s : String),
        Template.ofSteps (pre ++ .appendTemplate (.text s) :: post) =
          Template.ofSteps (pre ++ .appendTemplate (.template (Template.compile s)) :: post) :=
  ⟨by decide, run_normalForm _ (by decide)⟩

/-! ## Rendering a run -/

/-- What a reserved slot renders to under the bindings: the bound text, `null` for a keyword
bound to no text, and else the default, or `null` when there is none. -/
def slotText (σ : Bindings) (k : String) (d : Option String) : String :=
  match σ.lookup k with
  | some (some v) => v
  | some none => unsetText
  | none => d.getD unsetText

/-- What a token of a text renders to: a literal its text, and a slot what a reserved slot
renders to. -/
def tokenText (σ : Bindings) : Piece → String
  | .text x => x
  | .slot k d => slotText σ k d

/-- What one step renders to under the bindings, on its own. -/
def Step.render (σ : Bindings) : Step → String
  | .append x => x
  | .reserve k d => slotText σ k d
  | .appendTemplate (.text s) | .format (.text s) => String.join ((tokens s).map (tokenText σ))
  | .appendTemplate (.template u) | .format (.template u) => u.render σ
  | .build => ""

theorem fill_eq_tokenText (σ : Bindings) (p : Piece) : p.fill σ = tokenText σ p := by
  cases p with
  | text x => rfl
  | slot k d =>
      simp only [Piece.fill, tokenText, slotText]
      rcases σ.lookup k with _ | _ | v <;> rfl

/-- A step renders to what its pieces render to, joined. -/
theorem Step.render_eq (σ : Bindings) (s : Step) :
    s.render σ = String.join (s.items.map (Piece.fill σ)) := by
  have htok : ∀ ps : List Piece, ps.map (tokenText σ) = ps.map (Piece.fill σ) := fun ps =>
    List.map_congr_left fun p _ => (fill_eq_tokenText σ p).symm
  cases s with
  | append x => simp [Step.render, Step.items, Piece.fill]
  | reserve k d => simp [Step.render, Step.items, fill_eq_tokenText, tokenText]
  | appendTemplate src | format src =>
      cases src <;> simp [Step.render, Step.items, Source.items, htok, Template.render]
  | build => simp [Step.render, Step.items]

/-- Merging literals keeps the rendered text: a joined literal renders to its two texts. -/
theorem join_consMerge (σ : Bindings) (p : Piece) (r : List Piece) :
    String.join ((consMerge p r).map (Piece.fill σ)) =
      p.fill σ ++ String.join (r.map (Piece.fill σ)) := by
  match p, r with
  | .text a, .text b :: r => simp [Piece.fill, String.join_cons, String.append_assoc]
  | .text a, .slot k d :: r => simp
  | .text a, [] => simp
  | .slot k d, r => simp

theorem render_coalesce (σ : Bindings) (items : List Piece) :
    (Template.mk (coalesce items)).render σ = String.join (items.map (Piece.fill σ)) := by
  induction items with
  | nil => rfl
  | cons p items ih =>
      simp only [Template.render_mk, coalesce_cons, join_consMerge] at ih ⊢
      rw [ih, List.map_cons, String.join_cons]

/-- Rendering a run of steps other than `build` joins what each step renders to on its own;
compiling a text renders it token by token. -/
theorem render_ofSteps (steps : List Step) (h : ∀ s ∈ steps, s.check ≠ .build) :
    (∃ t, Template.ofSteps steps = .ok t ∧
      ∀ σ, t.render σ = String.join (steps.map (Step.render σ))) ∧
    ∀ (s : String) (σ : Bindings),
      (Template.compile s).render σ = String.join ((tokens s).map (tokenText σ)) := by
  refine ⟨⟨_, ofSteps_eq_coalesce h, fun σ => ?_⟩, fun s σ => ?_⟩
  · rw [render_coalesce]
    -- both sides join the same texts, grouped by step on the right
    induction steps with
    | nil => rfl
    | cons s steps ih =>
        rw [List.flatMap_cons, List.map_append, String.join_append,
          ih (fun s' hs' => h s' (List.mem_cons_of_mem _ hs')), List.map_cons, String.join_cons,
          Step.render_eq]
  · rw [Template.compile_eq_coalesce, render_coalesce]
    exact congrArg String.join (List.map_congr_left fun p _ => fill_eq_tokenText σ p)

theorem render_ofSteps_greeting :
    (∀ s ∈ [Step.append "Hi ", .reserve "name" (some "you"),
        .appendTemplate (.template ⟨[.text "! ", .slot "name" none]⟩)], s.check ≠ .build) ∧
      (∃ t, Template.ofSteps [Step.append "Hi ", .reserve "name" (some "you"),
          .appendTemplate (.template ⟨[.text "! ", .slot "name" none]⟩)] = .ok t ∧
        ∀ σ, t.render σ = String.join ([Step.append "Hi ", .reserve "name" (some "you"),
          .appendTemplate (.template ⟨[.text "! ", .slot "name" none]⟩)].map (Step.render σ))) ∧
      ∀ (s : String) (σ : Bindings),
        (Template.compile s).render σ = String.join ((tokens s).map (tokenText σ)) :=
  ⟨by decide, render_ofSteps _ (by decide)⟩

end Templating
