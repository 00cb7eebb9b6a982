import Templating.Proofs.Template.Process

/-!
# What every reachable builder keeps

A caller that holds a builder, and goes on after refused steps, only ever sees builders whose
recorded index describes their pieces (`Builder.WellIndexed`): each keyword is listed once, with
its positions in increasing order and in bounds; no position is listed under two keywords; a
position is listed under a keyword exactly when its piece is a slot of that keyword, reserved for
it; every other piece is a literal with its text; no two literals stand side by side, so the
builder's literal is open, and an append extends its last piece, exactly when that piece is not
listed; and the keywords come in the order of their first positions.

Main statement: `reachable_wellIndexed`.

## Implementation notes

Every step keeps `Builder.Coherent`: the pieces are merged, and the recorded index is the one the
pieces give. A refused step changes nothing, so every session a run reaches holds a coherent
builder (`Session.coherent_run`). The laws are then facts about the index of any list of pieces,
read off `Template.positions` and `Template.keywords`; the order of the first positions is carried
along the pieces one at a time, as the builder records them (`index_firsts`).
-/

namespace Templating

open Markup

/-! ## The index of a list of pieces -/

namespace Template

variable (t : Template)

theorem mem_index {k : String} {ps : List Nat} :
    (k, ps) ∈ t.index ↔ k ∈ t.keywords ∧ ps = t.positions k := by
  simp only [index, List.mem_map, Prod.mk.injEq]
  constructor
  · rintro ⟨k', hk', rfl, rfl⟩
    exact ⟨hk', rfl⟩
  · rintro ⟨hk, rfl⟩
    exact ⟨k, hk, rfl, rfl⟩

/-- A position is owned by a keyword exactly when its piece is a slot of the keyword. -/
theorem keywordAt_eq_some_iff {q : Nat} {k : String} :
    t.keywordAt q = some k ↔ ∃ d, t.pieces[q]? = some (.slot k d) := by
  simp only [keywordAt, Option.bind_eq_some_iff]
  constructor
  · rintro ⟨p, hp, hk⟩
    cases p with
    | text s => simp at hk
    | slot k' d =>
        simp only [Piece.keyword?_slot, Option.some.injEq] at hk
        exact ⟨d, hk ▸ hp⟩
  · rintro ⟨d, hp⟩
    exact ⟨_, hp, rfl⟩

theorem lt_length_of_mem_positions {k : String} {q : Nat} (h : q ∈ t.positions k) :
    q < t.length := by
  obtain ⟨d, hp⟩ := (t.keywordAt_eq_some_iff).1 ((t.mem_positions k q).1 h)
  exact (List.getElem?_eq_some_iff.1 hp).1

/-- A position is listed under a keyword exactly when its piece is a slot of the keyword. -/
theorem listed_iff_slot {k : String} {p : Nat} :
    (∃ ps, (k, ps) ∈ t.index ∧ p ∈ ps) ↔ ∃ d, t.pieces[p]? = some (.slot k d) := by
  constructor
  · rintro ⟨ps, he, hp⟩
    obtain ⟨-, rfl⟩ := t.mem_index.1 he
    exact t.keywordAt_eq_some_iff.1 ((t.mem_positions k p).1 hp)
  · intro hs
    have hown := t.keywordAt_eq_some_iff.2 hs
    exact ⟨_, t.mem_index.2 ⟨t.mem_keywords_of_keywordAt hown, rfl⟩, (t.mem_positions k p).2 hown⟩

/-- A keyword among the keywords owns a position. -/
theorem positions_ne_nil {k : String} (hk : k ∈ t.keywords) : t.positions k ≠ [] := by
  simp only [keywords, List.mem_eraseDups, List.mem_filterMap] at hk
  obtain ⟨p, hp, hkp⟩ := hk
  obtain ⟨q, hq⟩ := List.mem_iff_getElem?.1 hp
  have hown : t.keywordAt q = some k := by simp [keywordAt, hq, hkp]
  exact List.ne_nil_of_mem ((t.mem_positions k q).2 hown)

/-- A keyword's positions increase. -/
theorem pairwise_positions (k : String) : (t.positions k).Pairwise (· < ·) := by
  -- the positions are read off the pieces numbered in order
  have hnum : (t.pieces.zipIdx).Pairwise fun a b => a.2 < b.2 := by
    rw [List.pairwise_iff_getElem]
    intro i j hi hj hij
    simp [List.getElem_zipIdx, hij]
  refine hnum.filterMap _ ?_
  rintro ⟨p, i⟩ ⟨p', j⟩ hij a ha b hb
  simp only [Option.ite_none_right_eq_some, Option.some.injEq] at ha hb
  rw [← ha.2, ← hb.2]
  exact hij

end Template

/-- The first positions of the keywords increase in the order of an index. -/
def FirstsIncrease (ix : List (String × List Nat)) : Prop :=
  ix.Pairwise fun e f => ∀ p ∈ e.2.head?, ∀ q ∈ f.2.head?, p < q

/-- Recording a slot keeps the first position of every listed keyword, and a new keyword's first
position is the slot's. -/
theorem head?_of_mem_recordSlot {k : String} {n : Nat} :
    ∀ {ix : List (String × List Nat)}, (∀ e ∈ ix, e.2 ≠ []) →
      ∀ f ∈ recordSlot k n ix, (∃ e ∈ ix, f.2.head? = e.2.head?) ∨ f.2.head? = some n
  | [], _, f, hf => by simp_all [recordSlot]
  | (k', ps) :: rest, hne, f, hf => by
      by_cases hk : k' = k
      · simp only [recordSlot, if_pos hk, List.mem_cons] at hf
        rcases hf with rfl | hf
        · exact .inl ⟨(k', ps), List.mem_cons_self,
            List.head?_append_of_ne_nil _ (hne _ List.mem_cons_self)⟩
        · exact .inl ⟨f, List.mem_cons_of_mem _ hf, rfl⟩
      · simp only [recordSlot, if_neg hk, List.mem_cons] at hf
        rcases hf with rfl | hf
        · exact .inl ⟨_, List.mem_cons_self, rfl⟩
        · rcases head?_of_mem_recordSlot (fun e he => hne e (List.mem_cons_of_mem _ he)) f hf with
            ⟨e, he, h⟩ | h
          · exact .inl ⟨e, List.mem_cons_of_mem _ he, h⟩
          · exact .inr h

/-- Recording a slot after every listed position keeps the first positions increasing. -/
theorem firstsIncrease_recordSlot {k : String} {n : Nat} :
    ∀ {ix : List (String × List Nat)}, (∀ e ∈ ix, e.2 ≠ [] ∧ ∀ p ∈ e.2, p < n) →
      FirstsIncrease ix → FirstsIncrease (recordSlot k n ix)
  | [], _, _ => by simp [recordSlot, FirstsIncrease]
  | (k', ps) :: rest, hix, h => by
      unfold FirstsIncrease at h ⊢
      rw [List.pairwise_cons] at h
      have hne : ps ≠ [] := (hix _ List.mem_cons_self).1
      by_cases hk : k' = k
      · -- the keyword is listed first: its first position stays
        rw [recordSlot, if_pos hk, List.pairwise_cons, List.head?_append_of_ne_nil _ hne]
        exact h
      · rw [recordSlot, if_neg hk, List.pairwise_cons]
        have hrest : ∀ e ∈ rest, e.2 ≠ [] ∧ ∀ p ∈ e.2, p < n :=
          fun e he => hix e (List.mem_cons_of_mem _ he)
        refine ⟨fun f hf p hp q hq => ?_, firstsIncrease_recordSlot hrest h.2⟩
        rcases head?_of_mem_recordSlot (fun e he => (hrest e he).1) f hf with ⟨e, he, hfe⟩ | hfn
        · exact h.1 e he p hp q (hfe ▸ hq)
        · -- a new keyword comes after every listed position
          rw [hfn, Option.mem_some_iff] at hq
          exact hq ▸ (hix _ List.mem_cons_self).2 p (List.mem_of_mem_head? hp)

/-- The keywords of any pieces come in the order of their first positions. -/
theorem index_firsts (ps : List Piece) : FirstsIncrease (Template.mk ps).index := by
  induction ps using List.reverseRecOn with
  | nil => simp [FirstsIncrease, Template.index, Template.keywords]
  | append_singleton ps x ih =>
      cases x with
      | text s => rwa [Template.index_append_text]
      | slot k d =>
          rw [Template.index_append_slot]
          refine firstsIncrease_recordSlot (fun e he => ?_) ih
          obtain ⟨k', rfl⟩ : ∃ k', e = (k', (Template.mk ps).positions k') :=
            ⟨e.1, ((Template.mk ps).mem_index).1 he |>.2 ▸ rfl⟩
          exact ⟨(Template.mk ps).positions_ne_nil (((Template.mk ps).mem_index).1 he).1,
            fun p hp => (Template.mk ps).lt_length_of_mem_positions hp⟩

/-! ## Builders -/

namespace Builder

/-- A position is listed in the builder's index, under some keyword. -/
def Indexed (b : Builder) (p : Nat) : Prop := ∃ e ∈ b.index, p ∈ e.2

/-- An append extends the last piece: the builder's literal is open. -/
def LiteralOpen (b : Builder) : Prop := b.literalOpen = true

/-- What every builder a caller reaches keeps: its recorded index describes its pieces. -/
structure WellIndexed (b : Builder) : Prop where
  /-- Each keyword is listed once. -/
  keys_nodup : (b.index.map Prod.fst).Nodup
  /-- Each listed keyword has a position. -/
  nonempty : ∀ e ∈ b.index, e.2 ≠ []
  /-- A keyword's positions increase. -/
  increasing : ∀ e ∈ b.index, e.2.Pairwise (· < ·)
  /-- No position is listed under two keywords. -/
  disjoint : b.index.Pairwise fun e f => ∀ p ∈ e.2, p ∉ f.2
  /-- Every listed position is a piece. -/
  bounded : ∀ e ∈ b.index, ∀ p ∈ e.2, p < b.pieces.length
  /-- A position is listed under a keyword exactly when it is a slot reserved for it. -/
  listed_iff_slot : ∀ k p, (∃ ps, (k, ps) ∈ b.index ∧ p ∈ ps) ↔
    ∃ d, b.pieces[p]? = some (.slot k d)
  /-- A piece that is not listed is a literal, with a text. -/
  literal_text : ∀ p < b.pieces.length, ¬ b.Indexed p → ∃ s, b.template.segments[p]? = some (some s)
  /-- No two literals stand side by side. -/
  listed_adjacent : ∀ p, p + 1 < b.pieces.length → b.Indexed p ∨ b.Indexed (p + 1)
  /-- The literal is open, so an append extends the last piece, exactly when there is a last
  piece and it is not listed. -/
  literalOpen_iff : b.LiteralOpen ↔ b.pieces ≠ [] ∧ ¬ b.Indexed (b.pieces.length - 1)
  /-- The keywords come in the order of their first positions. -/
  firsts : FirstsIncrease b.index

variable {b : Builder}

/-- An entry of a coherent builder's index is a keyword of its pieces with its positions. -/
theorem Coherent.mem_index (h : b.Coherent) {e : String × List Nat} (he : e ∈ b.index) :
    e.1 ∈ b.template.keywords ∧ e.2 = b.template.positions e.1 := by
  rw [h.recordsIndex] at he
  exact b.template.mem_index.1 he

/-- In a coherent builder a position is listed exactly when it holds a slot. -/
theorem Coherent.indexed_iff (h : b.Coherent) (p : Nat) :
    b.Indexed p ↔ ∃ k d, b.pieces[p]? = some (.slot k d) := by
  simp only [Indexed, h.recordsIndex]
  constructor
  · rintro ⟨⟨k, ps⟩, he, hp⟩
    exact ⟨k, b.template.listed_iff_slot.1 ⟨ps, he, hp⟩⟩
  · rintro ⟨k, d, hp⟩
    obtain ⟨ps, he, hq⟩ := b.template.listed_iff_slot.2 ⟨d, hp⟩
    exact ⟨(k, ps), he, hq⟩

/-- A position of a coherent builder that is not listed holds a literal. -/
theorem Coherent.text_of_not_indexed (h : b.Coherent) {p : Nat} (hp : p < b.pieces.length)
    (hn : ¬ b.Indexed p) : ∃ s, b.pieces[p]? = some (.text s) := by
  rw [List.getElem?_eq_getElem hp]
  cases hq : b.pieces[p] with
  | text s => exact ⟨s, rfl⟩
  | slot k d =>
      exact absurd ((h.indexed_iff p).2 ⟨k, d, by rw [List.getElem?_eq_getElem hp, hq]⟩) hn

/-- A coherent builder's index describes its pieces. -/
theorem Coherent.wellIndexed (h : b.Coherent) : b.WellIndexed where
  keys_nodup := by
    have hkeys : (Template.mk b.pieces).index.map Prod.fst = (Template.mk b.pieces).keywords := by
      simp [Template.index, Function.comp_def]
    rw [h.recordsIndex, template, hkeys]
    exact Template.nodup_keywords b.pieces
  nonempty e he := by
    obtain ⟨hk, he2⟩ := h.mem_index he
    exact he2 ▸ b.template.positions_ne_nil hk
  increasing e he := (h.mem_index he).2 ▸ b.template.pairwise_positions _
  disjoint := by
    -- distinct keywords own distinct positions
    rw [h.recordsIndex, template, Template.index, List.pairwise_map]
    refine (Template.nodup_keywords b.pieces).imp fun {k k'} hkk' p hp hp' => hkk' ?_
    have h1 := ((Template.mk b.pieces).mem_positions k p).1 hp
    have h2 := ((Template.mk b.pieces).mem_positions k' p).1 hp'
    exact Option.some.inj (h1.symm.trans h2)
  bounded e he p hp := b.template.lt_length_of_mem_positions ((h.mem_index he).2 ▸ hp)
  listed_iff_slot k p := by
    rw [h.recordsIndex]
    exact b.template.listed_iff_slot
  literal_text p hp hn := by
    obtain ⟨s, hs⟩ := h.text_of_not_indexed hp hn
    exact ⟨s, by simp [template, Template.segments, hs]⟩
  listed_adjacent p hp := by
    -- merged pieces have a slot on one side of every pair of neighbours
    have hchain := List.isChain_iff_getElem.1 (h.merged ▸ isChain_coalesce b.pieces) p hp
    rw [h.indexed_iff, h.indexed_iff]
    rcases hchain with hs | hs
    · cases hq : b.pieces[p] with
      | text s => simp [hq, Piece.isSlot] at hs
      | slot k d => exact .inl ⟨k, d, by rw [List.getElem?_eq_getElem (by omega), hq]⟩
    · cases hq : b.pieces[p + 1] with
      | text s => simp [hq, Piece.isSlot] at hs
      | slot k d => exact .inr ⟨k, d, by rw [List.getElem?_eq_getElem hp, hq]⟩
  literalOpen_iff := by
    -- the flag says whether the pieces end in a literal
    rw [LiteralOpen, h.literalOpen, endsInLiteral_iff, List.getLast?_eq_getElem?]
    constructor
    · rintro ⟨s, hs⟩
      have hlt := (List.getElem?_eq_some_iff.1 hs).1
      refine ⟨List.ne_nil_of_length_pos (by omega), fun hi => ?_⟩
      obtain ⟨k, d, hk⟩ := (h.indexed_iff _).1 hi
      simp [hs] at hk
    · rintro ⟨hne, hn⟩
      exact h.text_of_not_indexed (by have := List.length_pos_of_ne_nil hne; omega) hn
  firsts := by
    rw [h.recordsIndex]
    exact index_firsts b.pieces

end Builder

/-! ## Sessions -/

namespace Session

variable {ss : Session}

/-- A step keeps the caller's builder coherent: a refused step changes nothing. -/
theorem coherent_step (h : ss.builder.Coherent) (s : Step) : (ss.step s).1.builder.Coherent := by
  unfold step
  split
  · exact h.step ‹_›
  · exact h

/-- A run keeps the caller's builder coherent. -/
theorem coherent_run (h : ss.builder.Coherent) (steps : List Step) :
    (ss.run steps).1.builder.Coherent := by
  induction steps generalizing ss with
  | nil => exact h
  | cons s steps ih => exact ih (coherent_step h s)

end Session

/-- Every builder a caller reaches from a fresh builder, by any steps and going on after refused
ones, has an index that describes its pieces: each keyword listed once, with positions that
increase, lie among the pieces and belong to no other keyword; a position listed under a keyword
exactly when its piece is a slot reserved for that keyword; every other piece a literal with its
text, never two side by side, so that an append extends the last piece exactly when it is not
listed; and the keywords in the order of their first positions. -/
theorem reachable_wellIndexed (steps : List Step) :
    (({} : Session).run steps).1.builder.WellIndexed :=
  (@Session.coherent_run {} Builder.coherent_fresh steps).wellIndexed

end Templating
