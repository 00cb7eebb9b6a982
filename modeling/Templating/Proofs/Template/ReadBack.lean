import Mathlib.Data.List.TakeWhile
import Templating.Template.Basic
import Templating.Proofs.Markup.Reading
import Templating.Proofs.Template.Build

/-!
# Reading written templates back

A template is written piece by piece and the text is read back as a whole. A slot is written
with its keyword and default escaped, so it reads back as itself when the text before it holds
no `${` and ends in an even run of backslashes, and neither its keyword nor its default holds a
colon. A literal is written with a backslash before each live marker, so its markers read back
as literal text; an escaped marker in it loses one backslash.

Main statements: a compiled text is written and compiled again to itself
(`compile_write_compile`); a built template whose literals hold only live markers and whose
slots hold no colon renders the same once written and compiled, when `conflicts` is empty
(`render_compile_write`).
-/

namespace Templating

open Markup

/-! ## Slots -/

/-- The content a slot is written with: its keyword, then a colon and its default if it has
one. -/
def slotContent (k : String) (d : Option String) : List Char :=
  k.toList ++ match d with
    | none => []
    | some e => ':' :: e.toList

/-- The content of a slot as written, its keyword and default escaped. -/
def slotBody (k : String) (d : Option String) : List Char :=
  escapeChars k.toList ++ match d with
    | none => []
    | some e => ':' :: escapeChars e.toList

theorem written_slot (k : String) (d : Option String) :
    (Piece.slot k d).written = '$' :: '{' :: (slotBody k d ++ ['}']) := by
  cases d <;> simp [Piece.written, slotBody]

/-- A slot's content as written reads back as its content, whatever follows the brace. -/
theorem slotBody_sound (k : String) (d : Option String) :
    (⟨slotContent k d, slotBody k d, []⟩ : Closed).Sound := by
  intro r
  cases d with
  | none => simp [slotBody, slotContent, scanContent_escapeChars_close]
  | some e =>
      have hcolon : scanContent (':' :: (escapeChars e.toList ++ '}' :: r)) =
          some ⟨':' :: e.toList, ':' :: escapeChars e.toList, r⟩ := by
        rw [scanContent_plain (by decide) (by decide), scanContent_escapeChars_close]
        rfl
      simp [slotBody, slotContent, scanContent_escapeChars, hcolon]

/-- A keyword and a default that a slot's marker can carry: neither holds a colon. -/
def ColonFree (k : String) (d : Option String) : Prop :=
  ':' ∉ k.toList ∧ ∀ e ∈ d, ':' ∉ e.toList

instance (k : String) (d : Option String) : Decidable (ColonFree k d) :=
  inferInstanceAs (Decidable (':' ∉ k.toList ∧ ∀ e ∈ d, ':' ∉ e.toList))

theorem splitContent_slotContent {k : String} {d : Option String} (h : ColonFree k d) :
    splitContent (slotContent k d) = (k, d) := by
  cases d with
  | none => simp [slotContent, splitContent_of_colonFree h.1]
  | some e => simp [slotContent, splitContent_colonFree h.1 (h.2 e rfl)]

/-- What a marker's content splits into holds no colon. -/
theorem colonFree_splitContent (cs : List Char) :
    ColonFree (splitContent cs).1 (splitContent cs).2 := by
  unfold splitContent
  split
  · rename_i h
    refine ⟨?_, by simp⟩
    intro hc
    have := List.dropWhile_eq_nil_iff.1 h ':' (by simpa using hc)
    simp at this
  · refine ⟨?_, ?_⟩
    · intro hc
      have := List.mem_takeWhile_imp (by simpa using hc)
      simp at this
    · intro e he hc
      simp only [Option.mem_def, Option.some.injEq] at he
      subst he
      have := List.mem_takeWhile_imp (by simpa using hc)
      simp at this

/-- A slot written after a text without `${` is the first marker of the two, with that text as
its gap, whatever follows. -/
theorem nextMarker_append_written {t : List Char} (ht : findOpen t = none) (k : String)
    (d : Option String) (z : List Char) :
    nextMarker (t ++ (Piece.slot k d).written ++ z) =
      some ⟨t, { (⟨slotContent k d, slotBody k d, []⟩ : Closed) with rest := z }⟩ := by
  rw [written_slot]
  simpa [List.append_assoc] using nextMarker_gap_marker ht (slotBody_sound k d) z

/-- A text without `${` and ending in an even run of backslashes, then a slot written after it,
read back as the text and a slot of what the slot's content splits into, whatever follows. -/
theorem read_slot_append_split {t : List Char} (ht : findOpen t = none)
    (hb : trailingBackslashes t % 2 = 0) (k : String) (d : Option String) (z : List Char) :
    read (t ++ (Piece.slot k d).written ++ z) =
      tailPieces t ++
        .slot (splitContent (slotContent k d)).1 (splitContent (slotContent k d)).2 :: read z := by
  have hlive : Found.escaped ⟨t, ⟨slotContent k d, slotBody k d, []⟩⟩ = false :=
    (Found.escaped_eq_false_iff _).2 hb
  rw [read_of_some (nextMarker_append_written ht k d z), Found.pieces_rest]
  simp [Found.pieces, hlive, tailPieces]

/-- A text without `${` and ending in an even run of backslashes, then a slot written after it,
read back as the text and the slot, whatever follows. -/
theorem read_slot_append {t : List Char} (ht : findOpen t = none)
    (hb : trailingBackslashes t % 2 = 0) {k : String} {d : Option String} (hkd : ColonFree k d)
    (z : List Char) :
    read (t ++ (Piece.slot k d).written ++ z) = tailPieces t ++ .slot k d :: read z := by
  rw [read_slot_append_split ht hb, splitContent_slotContent hkd]

/-! ## Literals -/

/-- A text in which no marker is found is written as itself. -/
theorem written_text_of_none {cs : List Char} (h : nextMarker cs = none) :
    (Piece.text (String.ofList cs)).written = cs := by
  simp [Piece.written, escapeLiteral_eq, escapeText_of_none h]

/-- What is left after the last marker is written as itself. -/
theorem flatMap_written_tailPieces {cs : List Char} (h : nextMarker cs = none) :
    (tailPieces cs).flatMap Piece.written = cs := by
  unfold tailPieces
  split
  · rename_i he
    simpa using (List.isEmpty_iff.1 he).symm
  · simp [written_text_of_none h]

/-- A literal whose markers are all live, written and read back before any text: each marker
with its gap as a literal, then what is left after the last one read with what follows. -/
theorem read_written_text {s : String} (hlive : ∀ f ∈ (cut s.toList).1, f.escaped = false)
    (z : List Char) :
    read ((Piece.text s).written ++ z) =
      (cut s.toList).1.map (fun f => .text (String.ofList (f.gap ++ f.raw))) ++
        read ((cut s.toList).2 ++ z) := by
  simp only [Piece.written, escapeLiteral_eq, String.toList_ofList]
  exact read_escapeText_append hlive z

/-- A marker as written after a text without `${` is the one marker of the two. -/
theorem cut_gap_raw {g : List Char} (hg : findOpen g = none) {c : Closed} (hc : c.Sound) :
    cut (g ++ Found.raw ⟨g, c⟩) = ([⟨g, { c with rest := [] }⟩], []) := by
  have hm : nextMarker (g ++ Found.raw ⟨g, c⟩) = some ⟨g, { c with rest := [] }⟩ := by
    simpa [Found.raw, List.append_assoc] using nextMarker_gap_marker hg hc []
  rw [cut_of_nextMarker hm]
  simp [cut_nil]

/-- A literal holding one live marker after its gap, written and read back before any text, is
that literal again. -/
theorem read_written_marker {g : List Char} (hg : findOpen g = none)
    (hb : trailingBackslashes g % 2 = 0) {c : Closed} (hc : c.Sound) (z : List Char) :
    read ((Piece.text (String.ofList (g ++ Found.raw ⟨g, c⟩))).written ++ z) =
      .text (String.ofList (g ++ Found.raw ⟨g, c⟩)) :: read z := by
  have hcut := cut_gap_raw hg hc
  have hlive : ∀ f ∈ (cut (String.ofList (g ++ Found.raw ⟨g, c⟩)).toList).1,
      f.escaped = false := by
    rw [String.toList_ofList, hcut]
    intro f hf
    rw [List.mem_singleton.1 hf, Found.escaped_eq_false_iff]
    exact hb
  rw [read_written_text hlive, String.toList_ofList, hcut]
  rfl

/-! ## Markers -/

/-- A live marker reads as its gap, if any, and a slot. -/
theorem Found.pieces_live {f : Found} (he : f.escaped = false) :
    f.pieces = tailPieces f.gap ++
      [.slot (splitContent f.closed.content).1 (splitContent f.closed.content).2] := by
  simp [Found.pieces, he, tailPieces]

/-- An escaped marker holds a live one: its gap without the last backslash, then the marker. -/
theorem Found.escaped_spec {f : Found} (hg : findOpen f.gap = none) (he : f.escaped = true) :
    f.gap = f.gap.dropLast ++ ['\\'] ∧ findOpen f.gap.dropLast = none ∧
      trailingBackslashes f.gap.dropLast % 2 = 0 := by
  obtain ⟨hgap, hb⟩ := eq_dropLast_of_odd ((Found.escaped_eq_true_iff f).1 he)
  exact ⟨hgap, findOpen_eq_none_of_append (hgap ▸ hg), hb⟩

/-- The pieces one marker of a text reads as, written and read back before any text, are those
pieces again. -/
theorem read_written_found {f : Found} (hg : findOpen f.gap = none) (hs : f.closed.Sound)
    (z : List Char) : read (f.pieces.flatMap Piece.written ++ z) = f.pieces ++ read z := by
  cases he : f.escaped
  case true =>
    obtain ⟨-, hg', hb⟩ := Found.escaped_spec hg he
    simp only [Found.pieces, he, if_true, List.flatMap_cons, List.flatMap_nil, List.append_nil,
      List.singleton_append]
    exact read_written_marker hg' hb hs z
  case false =>
    have hb : trailingBackslashes f.gap % 2 = 0 := (Found.escaped_eq_false_iff f).1 he
    rw [Found.pieces_live he]
    simp only [List.flatMap_append, List.flatMap_cons, List.flatMap_nil, List.append_nil,
      flatMap_written_tailPieces (nextMarker_of_findOpen hg)]
    rw [read_slot_append hg hb (colonFree_splitContent _), List.append_assoc]
    rfl

/-- The pieces of a text, written and read back, are those pieces again. -/
theorem read_written_read (cs : List Char) :
    read ((read cs).flatMap Piece.written) = read cs := by
  induction cs using cut.induct with
  | case1 x h => rw [read_of_none h, flatMap_written_tailPieces h, read_of_none h]
  | case2 x f h _ ih =>
      obtain ⟨hg, hs, -⟩ := nextMarker_spec h
      rw [read_of_some h, List.flatMap_append, read_written_found hg hs, ih]

/-! ## Merged literals -/

/-- Putting a piece in front of others is writing it in front of them, unless it joins a
literal whose text still has something after its last marker. -/
theorem flatMap_written_consMerge (p : Piece) (qs : List Piece)
    (h : ∀ a b, p = .text a → qs.head? = some (.text b) → (cut a.toList).2 = []) :
    (consMerge p qs).flatMap Piece.written = p.written ++ qs.flatMap Piece.written := by
  match p, qs with
  | .text a, .text b :: r =>
      have ha := h a b rfl rfl
      simp [Piece.written, escapeLiteral_eq, escapeText_append ha]
  | .text a, .slot k d :: r => simp
  | .text a, [] => simp
  | .slot k d, r => simp

/-- Merging the literals of a text's pieces does not change how they are written: only an
escaped marker's literal is followed by another literal, and nothing of it is left after its
marker. -/
theorem flatMap_written_coalesce_read (cs : List Char) :
    (coalesce (read cs)).flatMap Piece.written = (read cs).flatMap Piece.written := by
  induction cs using cut.induct with
  | case1 x h =>
      rw [read_of_none h]
      unfold tailPieces
      split <;> simp
  | case2 x f h _ ih =>
      obtain ⟨hg, hs, -⟩ := nextMarker_spec h
      rw [read_of_some h, coalesce, List.foldr_append, ← coalesce, List.flatMap_append, ← ih]
      cases he : f.escaped
      case true =>
        obtain ⟨-, hg', -⟩ := Found.escaped_spec hg he
        have hsealed : (cut (f.gap.dropLast ++ Found.raw ⟨f.gap.dropLast, f.closed⟩)).2 = [] := by
          rw [cut_gap_raw hg' hs]
        simp only [Found.pieces, he, if_true, List.foldr_cons, List.foldr_nil,
          List.flatMap_cons, List.flatMap_nil, List.append_nil]
        refine flatMap_written_consMerge _ _ ?_
        rintro a b ⟨⟩ -
        rw [String.toList_ofList]
        exact hsealed
      case false =>
        rw [Found.pieces_live he, List.foldr_append]
        unfold tailPieces
        split <;> simp

/-- A compiled text, written and compiled again, is the same template: the same pieces, so the
same keyword index. Its text is then fixed by a second round, and it renders the same under any
bindings. -/
theorem compile_write_compile (s : String) :
    Template.compile (Template.compile s).write = Template.compile s ∧
      (Template.compile (Template.compile s).write).write = (Template.compile s).write ∧
      ∀ σ : Bindings,
        (Template.compile (Template.compile s).write).render σ = (Template.compile s).render σ := by
  have h : Template.compile (Template.compile s).write = Template.compile s := by
    simp only [Template.compile_eq_coalesce, tokens_eq_read, Template.write, String.toList_ofList,
      flatMap_written_coalesce_read, read_written_read]
  exact ⟨h, by rw [h], fun σ => by rw [h]⟩

/-! ## Written templates -/

theorem join_fill_tailPieces (σ : Bindings) (cs : List Char) :
    String.join ((tailPieces cs).map (Piece.fill σ)) = String.ofList cs := by
  unfold tailPieces
  split
  · rename_i h
    simp [List.isEmpty_iff.1 h]
  · simp [Piece.fill]

/-- A literal split at its markers renders as the literal. -/
theorem join_fill_cut (σ : Bindings) (s : String) :
    String.join (((cut s.toList).1.map (fun f => Piece.text (String.ofList (f.gap ++ f.raw))) ++
      tailPieces (cut s.toList).2).map (Piece.fill σ)) = s := by
  rw [List.map_append, String.join_append, join_fill_tailPieces]
  apply String.toList_inj.mp
  rw [String.toList_append, String.toList_join, String.toList_ofList]
  conv_rhs => rw [cut_spec s.toList]
  rw [List.flatMap_map, List.flatMap_map]
  simp only [Piece.fill, String.toList_ofList]

/-- What a list of pieces needs to be written faithfully: no two literals side by side, no
literal that breaks the slot after it, every marker of a literal live and every slot colon
free. Positions of conflicts count from `i`. -/
structure Faithful (i : Nat) (ps : List Piece) : Prop where
  apart : ps.IsChain (fun a b => a.isSlot ∨ b.isSlot)
  noConflicts : conflictsFrom i ps = []
  live : ∀ s, .text s ∈ ps → ∀ f ∈ (cut s.toList).1, f.escaped = false
  colonFree : ∀ k d, .slot k d ∈ ps → ColonFree k d

namespace Faithful

variable {i : Nat} {s k : String} {d : Option String} {rest : List Piece}

/-- Without its first piece a list keeps every condition but the conflicts, which are counted
from the next position. -/
theorem tail {p : Piece} (h : Faithful i (p :: rest)) (hc : conflictsFrom (i + 1) rest = []) :
    Faithful (i + 1) rest :=
  ⟨h.apart.tail, hc, fun s hs => h.live s (List.mem_cons_of_mem _ hs),
    fun k d hs => h.colonFree k d (List.mem_cons_of_mem _ hs)⟩

theorem slot (h : Faithful i (.slot k d :: rest)) : Faithful (i + 1) rest :=
  h.tail h.noConflicts

/-- A literal that does not break the slot after it leaves no `${` after its last marker and
ends in an even run of backslashes. -/
theorem text_slot (h : Faithful i (.text s :: .slot k d :: rest)) :
    findOpen (cut s.toList).2 = none ∧ trailingBackslashes (cut s.toList).2 % 2 = 0 ∧
      Faithful (i + 2) rest := by
  have hconf := h.noConflicts
  simp only [conflictsFrom, List.append_eq_nil_iff, ite_eq_right_iff, reduceCtorEq,
    imp_false, Bool.not_eq_true] at hconf
  obtain ⟨hbreak, hrest⟩ := hconf
  simp only [breaksFollowing, Bool.or_eq_false_iff, beq_eq_false_iff_ne,
    Option.isSome_eq_false_iff, Option.isNone_iff_eq_none] at hbreak
  exact ⟨hbreak.2, by rw [trailingBackslashes_cut]; omega, (h.tail hrest).slot⟩

/-- Pieces that can be written faithfully render the same once written and read back. -/
theorem render_read_written : ∀ {i : Nat} {ps : List Piece}, Faithful i ps → ∀ σ : Bindings,
    String.join ((read (ps.flatMap Piece.written)).map (Piece.fill σ)) =
      String.join (ps.map (Piece.fill σ))
  | _, [], _, σ => by simp
  | _, [.text s], h, σ => by
      have hr := read_written_text (h.live s (by simp)) []
      rw [List.append_nil, List.append_nil, read_of_none (nextMarker_cut_snd _)] at hr
      rw [List.flatMap_singleton, hr, join_fill_cut]
      simp [Piece.fill]
  | _, .text s :: .slot k d :: rest, h, σ => by
      obtain ⟨ht, hb, hrest⟩ := h.text_slot
      rw [List.flatMap_cons, List.flatMap_cons, read_written_text (h.live s (by simp)),
        ← List.append_assoc, read_slot_append ht hb (h.colonFree k d (by simp)),
        ← List.append_assoc, List.map_append, String.join_append, join_fill_cut,
        List.map_cons, String.join_cons, render_read_written hrest σ]
      simp only [List.map_cons, String.join_cons]
      rfl
  | _, .text s :: .text s' :: rest, h, _ => by
      have := h.apart
      simp [Piece.isSlot] at this
  | _, .slot k d :: rest, h, σ => by
      have hs := read_slot_append (t := []) rfl rfl (h.colonFree k d (by simp))
        (rest.flatMap Piece.written)
      rw [List.nil_append, tailPieces_nil, List.nil_append] at hs
      rw [List.flatMap_cons, hs, List.map_cons, List.map_cons, String.join_cons, String.join_cons,
        render_read_written h.slot σ]

end Faithful

/-- A template built by a run, with no conflicts, whose literals hold only live markers and whose
slots hold no colon, renders the same once written and compiled again, under any bindings.
Without the last two conditions it need not: an escaped marker in a literal loses a backslash,
and a colon in a keyword or a default is read as the start of a default. -/
theorem render_compile_write {steps : List Step} {t : Template}
    (hrun : Template.ofSteps steps = .ok t) (hconf : t.conflicts = [])
    (hlive : ∀ s, Piece.text s ∈ t.pieces → ∀ m ∈ markers s, m.escaped = false)
    (hcolon : ∀ k d, Piece.slot k d ∈ t.pieces → ColonFree k d) (σ : Bindings) :
    (Template.compile t.write).render σ = t.render σ := by
  have hapart : t.pieces.IsChain (fun a b => a.isSlot ∨ b.isSlot) := by
    rw [← ofSteps_merged hrun]
    exact isChain_coalesce _
  have hf : Faithful 0 t.pieces :=
    ⟨hapart, hconf, fun s hs => escaped_eq_false_of_markers (hlive s hs), hcolon⟩
  rw [Template.compile_eq_coalesce, tokens_eq_read, render_coalesce, Template.write,
    String.toList_ofList, hf.render_read_written σ]
  rfl

/-- A literal holding a live marker, then a slot with a default and a literal, is built without
conflicts and renders the same once written and compiled again. -/
theorem render_compile_write_liveMarker :
    Template.ofSteps [.append "a ${x} b", .reserve "name" (some "you"), .append "!"] =
        .ok ⟨[.text "a ${x} b", .slot "name" (some "you"), .text "!"]⟩ ∧
      (Template.mk [.text "a ${x} b", .slot "name" (some "you"), .text "!"]).conflicts = [] ∧
      (Template.compile
          (Template.mk [.text "a ${x} b", .slot "name" (some "you"), .text "!"]).write).render [] =
        (Template.mk [.text "a ${x} b", .slot "name" (some "you"), .text "!"]).render [] := by
  have hrun : Template.ofSteps [.append "a ${x} b", .reserve "name" (some "you"), .append "!"] =
      .ok ⟨[.text "a ${x} b", .slot "name" (some "you"), .text "!"]⟩ := rfl
  have hconf : (Template.mk [.text "a ${x} b", .slot "name" (some "you"), .text "!"]).conflicts =
      [] := by decide +kernel
  refine ⟨hrun, hconf, render_compile_write hrun hconf ?_ ?_ []⟩
  · intro s hs
    simp only [List.mem_cons, Piece.text.injEq, reduceCtorEq, List.not_mem_nil, or_false,
      false_or] at hs
    rcases hs with rfl | rfl <;> decide +kernel
  · intro k d hs
    simp only [List.mem_cons, Piece.slot.injEq, reduceCtorEq, List.not_mem_nil, or_false,
      false_or] at hs
    obtain ⟨rfl, rfl⟩ := hs
    decide +kernel

/-- A literal holding an escaped marker, and a slot whose keyword holds a colon, are each built
without conflicts, yet neither renders the same once written and compiled again: the literal
loses its backslash, and the slot reads as keyword `a` with default `b`. -/
theorem render_compile_write_unfaithful :
    (Template.ofSteps [.append "\\${x}"] = .ok ⟨[.text "\\${x}"]⟩ ∧
      (Template.mk [.text "\\${x}"]).conflicts = [] ∧
      (Template.compile (Template.mk [.text "\\${x}"]).write).render [] ≠
        (Template.mk [.text "\\${x}"]).render []) ∧
    (Template.ofSteps [.reserve "a:b" none] = .ok ⟨[.slot "a:b" none]⟩ ∧
      (Template.mk [.slot "a:b" none]).conflicts = [] ∧
      (Template.compile (Template.mk [.slot "a:b" none]).write).render [] ≠
        (Template.mk [.slot "a:b" none]).render []) :=
  ⟨⟨rfl, by decide +kernel, by decide +kernel⟩, ⟨rfl, by decide +kernel, by decide +kernel⟩⟩

end Templating
