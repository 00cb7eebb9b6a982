import Templating.Proofs.Template.Following

/-!
# Conflicts are real

`Template.conflicts` lists the literals that break the slot written after them. Each listed
conflict changes what the written text renders to: there are bindings, each keyword bound to a
text, under which the template and its written and compiled form render to different texts
(`render_compile_write_ne`).

The bindings fill every slot, of the template and of its compiled form alike, with one long
text. Each piece then renders to a length of its own, its `width`, and the written text reads
back piece by piece into pieces no wider than the ones written, one narrower at each conflict:
an escaped marker is one backslash shorter, a slot turned into literal text is narrower than the
long text it stood for, and a slot swallowed by an earlier `${` takes the place of that `${`
and of the text after it.

The same count shows that a compiled text has no conflicts (`conflicts_compile`): its pieces,
written and read back, are its pieces again, so nothing is lost in reading them back.
-/

namespace Templating

open Markup

/-! ## Widths -/

/-- The length a piece renders to when every slot is filled with a text of length `n`. -/
def Markup.Piece.width (n : Nat) : Piece → Nat
  | .text s => s.length
  | .slot _ _ => n

/-- The length pieces render to when every slot is filled with a text of length `n`. -/
def widthOf (n : Nat) : List Piece → Nat
  | [] => 0
  | p :: ps => p.width n + widthOf n ps

@[simp] theorem widthOf_nil (n : Nat) : widthOf n [] = 0 := rfl

@[simp] theorem widthOf_cons (n : Nat) (p : Piece) (ps : List Piece) :
    widthOf n (p :: ps) = p.width n + widthOf n ps := rfl

@[simp] theorem widthOf_append (n : Nat) (ps qs : List Piece) :
    widthOf n (ps ++ qs) = widthOf n ps + widthOf n qs := by
  induction ps with
  | nil => simp
  | cons p ps ih => simp [ih, Nat.add_assoc]

@[simp] theorem width_text (n : Nat) (s : String) : (Piece.text s).width n = s.length := rfl

@[simp] theorem width_slot (n : Nat) (k : String) (d : Option String) :
    (Piece.slot k d).width n = n := rfl

@[simp] theorem widthOf_tailPieces (n : Nat) (t : List Char) :
    widthOf n (tailPieces t) = t.length := by
  unfold tailPieces
  split
  · rename_i h
    simp [List.isEmpty_iff.1 h]
  · simp

/-- Pieces whose slots are all bound to `v` render to their width at the length of `v`. -/
theorem length_join_fill {σ : Bindings} {v : String} {ps : List Piece}
    (hσ : ∀ k d, .slot k d ∈ ps → σ.lookup k = some (some v)) :
    (String.join (ps.map (Piece.fill σ))).length = widthOf v.length ps := by
  induction ps with
  | nil => simp
  | cons p ps ih =>
      have hrest := ih fun k d h => hσ k d (List.mem_cons_of_mem _ h)
      cases p with
      | text s => simp [Piece.fill, hrest]
      | slot k d => simp [Piece.fill, hσ k d List.mem_cons_self, hrest]

/-- A slot is written as at least its opening, its closing brace and its escaped content. -/
theorem length_written_slot (k : String) (d : Option String) :
    (Piece.slot k d).written.length = (slotBody k d).length + 3 := by
  simp [written_slot]

/-- Binding each of some keywords to one text binds each of them to it. -/
theorem lookup_map_const {ks : List String} {k : String} (h : k ∈ ks) (x : Option String) :
    (ks.map fun k' => (k', x)).lookup k = some x := by
  induction ks with
  | nil => simp at h
  | cons k' ks ih =>
      rw [List.map_cons, List.lookup_cons]
      by_cases hk : k = k'
      · simp [hk]
      · have hb : (k == k') = false := by simpa using hk
        rw [hb]
        exact ih (by simpa [hk] using h)

/-- A piece of a list is written within the text the list is written as. -/
theorem length_written_le {ps : List Piece} {p : Piece} (h : p ∈ ps) :
    p.written.length ≤ (ps.flatMap Piece.written).length := by
  induction ps with
  | nil => simp at h
  | cons q ps ih =>
      rw [List.flatMap_cons, List.length_append]
      rcases List.mem_cons.1 h with rfl | h
      · omega
      · have := ih h
        omega

/-- A text that ends in an odd run of backslashes is not empty. -/
theorem one_le_length_of_odd {t : List Char} (h : trailingBackslashes t % 2 = 1) :
    1 ≤ t.length := by
  have := trailingBackslashes_le_length t
  omega

/-! ## Reading back no wider -/

/-- Escaping a text and reading its markers back gives literals no wider than the text before
what is left after its last marker. -/
theorem widthOf_escapedText_cut (n : Nat) (cs : List Char) :
    widthOf n ((cut cs).1.map Found.escapedText) + (cut cs).2.length ≤ cs.length := by
  induction cs using cut.induct with
  | case1 x h => simp [cut_of_none h]
  | case2 x f h _ ih =>
      obtain ⟨-, -, hx⟩ := nextMarker_spec h
      have hf : (Found.escapedText f).width n ≤ f.gap.length + f.raw.length := by
        unfold Found.escapedText
        split <;> simp
      rw [cut_of_nextMarker h]
      conv_rhs => rw [hx]
      simp only [List.map_cons, widthOf_cons, List.length_append]
      omega

/-- What a slot written after the text left over by a literal's markers reads as, with more text
after it: pieces no wider than that text and a filled slot, and narrower by at least one when
the text breaks the slot. -/
theorem read_tail_slot_width {t : List Char} (ht : nextMarker t = none) {n : Nat} {k : String}
    {d : Option String} (hn : (Piece.slot k d).written.length ≤ n) (z : List Char) :
    ∃ X, read (t ++ (Piece.slot k d).written ++ z) = X ++ read z ∧
      widthOf n X + (trailingBackslashes t % 2 == 1 || (findOpen t).isSome).toNat ≤
        t.length + n := by
  have hM := length_written_slot k d
  cases hf : findOpen t with
  | none =>
      by_cases hb : trailingBackslashes t % 2 = 0
      · -- the slot stays a slot
        refine ⟨tailPieces t ++
            [.slot (splitContent (slotContent k d)).1 (splitContent (slotContent k d)).2], ?_, ?_⟩
        · rw [read_slot_append_split hf hb k d z, List.append_assoc, List.singleton_append]
        · simp [hb]
      · -- the slot is escaped, and reads as literal text in place of the text's last backslash
        refine ⟨[.text (String.ofList (t.dropLast ++ (Piece.slot k d).written))], ?_, ?_⟩
        · rw [read_slot_append_escaped hf (by omega) k d z, List.singleton_append]
        · have hodd : trailingBackslashes t % 2 = 1 := by omega
          have hlen := one_le_length_of_odd hodd
          simp only [widthOf_cons, widthOf_nil, width_text, String.length_ofList,
            List.length_append, List.length_dropLast]
          simp [hodd]
          omega
  | some p =>
      obtain ⟨g, a⟩ := p
      have ha : scanContent a = none := by simpa [nextMarker, hf] using ht
      obtain ⟨c, hc, hr⟩ := read_slot_append_unclosed hf ha k d z
      refine ⟨_, hr, ?_⟩
      have hta := congrArg List.length (findOpen_spec hf).2
      simp only [List.length_append, List.length_cons] at hta
      cases he : Found.escaped ⟨g, c⟩
      · -- the swallowing marker is a slot: the `${` and the text after it are gone
        rw [Found.pieces_live he]
        simp
        omega
      · -- the swallowing marker is escaped: it reads as the text with one backslash less
        have hlen : 1 ≤ g.length := one_le_length_of_odd ((Found.escaped_eq_true_iff _).1 he)
        have hraw : (Found.raw ⟨g, c⟩).length = a.length + (slotBody k d).length + 5 := by
          simp [Found.raw, hc]
          omega
        simp only [Found.pieces, he, if_true, widthOf_cons, widthOf_nil, width_text,
          String.length_ofList, List.length_append, List.length_dropLast, hraw]
        simp
        omega

/-- Pieces with no two literals side by side, written and read back, are no wider than they
were, and narrower by the number of conflicts, when every slot is filled with a text at least
as long as any slot as written. -/
theorem widthOf_read_written {n : Nat} : ∀ {i : Nat} {ps : List Piece},
    ps.IsChain (fun a b => a.isSlot ∨ b.isSlot) →
    (∀ k d, .slot k d ∈ ps → (Piece.slot k d).written.length ≤ n) →
    widthOf n (read (ps.flatMap Piece.written)) + (conflictsFrom i ps).length ≤ widthOf n ps
  | _, [], _, _ => by simp [conflictsFrom]
  | i, [.text s], _, _ => by
      have hr := read_escapeText_append_cut s.toList []
      have hw := widthOf_escapedText_cut n s.toList
      rw [List.append_nil, List.append_nil, read_of_none (nextMarker_cut_snd _)] at hr
      simp only [List.flatMap_cons, List.flatMap_nil, List.append_nil, Piece.written,
        escapeLiteral_eq, String.toList_ofList, hr, widthOf_append, widthOf_tailPieces]
      simp only [String.length_toList] at hw
      simp [conflictsFrom]
      omega
  | i, .text s :: .slot k d :: rest, hchain, hn => by
      obtain ⟨X, hX, hwX⟩ := read_tail_slot_width (nextMarker_cut_snd s.toList)
        (hn k d (by simp)) (rest.flatMap Piece.written)
      rw [List.append_assoc] at hX
      have hr := read_escapeText_append_cut s.toList
        ((Piece.slot k d).written ++ rest.flatMap Piece.written)
      have hw := widthOf_escapedText_cut n s.toList
      simp only [String.length_toList] at hw
      have ih := @widthOf_read_written n (i + 2) rest hchain.tail.tail
        (fun k' d' h => hn k' d' (List.mem_cons_of_mem _ (List.mem_cons_of_mem _ h)))
      have hconf : conflictsFrom i (.text s :: .slot k d :: rest) =
          (if breaksFollowing s then [i] else []) ++ conflictsFrom (i + 2) rest := by
        simp [conflictsFrom]
      -- the literal's breaking flag is the flag of what is left after its last marker
      have hbreak : breaksFollowing s =
          (trailingBackslashes (cut s.toList).2 % 2 == 1 ||
            (findOpen (cut s.toList).2).isSome) := by
        rw [trailingBackslashes_cut]
        rfl
      rw [← hbreak] at hwX
      rw [List.flatMap_cons, List.flatMap_cons, Piece.written, escapeLiteral_eq,
        String.toList_ofList, hr, hX, hconf]
      simp only [widthOf_append, widthOf_cons, width_text, width_slot, List.length_append]
      cases hb : breaksFollowing s <;> simp only [hb, Bool.toNat_true, Bool.toNat_false] at hwX <;>
        simp <;> omega
  | i, .text s :: .text s' :: rest, hchain, _ => by
      simp [Piece.isSlot] at hchain
  | i, .slot k d :: rest, hchain, hn => by
      have hs := read_slot_append_split (t := []) rfl rfl k d (rest.flatMap Piece.written)
      have ih := @widthOf_read_written n (i + 1) rest hchain.tail
        (fun k' d' h => hn k' d' (List.mem_cons_of_mem _ h))
      rw [List.nil_append, tailPieces_nil, List.nil_append] at hs
      have hconf : conflictsFrom i (.slot k d :: rest) = conflictsFrom (i + 1) rest := rfl
      rw [List.flatMap_cons, hs, hconf]
      simp only [widthOf_cons, width_slot]
      omega

/-! ## Conflicts -/

/-- A template built by a run whose `conflicts` lists a position renders differently once written
and compiled again: binding every keyword, of the template and of its compiled form, to one text
as long as the whole written text makes the compiled form render shorter. So a composition that
reports a conflict could not have been written out faithfully. -/
theorem render_compile_write_ne {steps : List Step} {t : Template}
    (hrun : Template.ofSteps steps = .ok t) (hconf : t.conflicts ≠ []) :
    ∃ σ : Bindings, (σ.map Prod.fst).Nodup ∧ (∀ b ∈ σ, b.2.isSome) ∧
      (Template.compile t.write).render σ ≠ t.render σ := by
  let W := t.pieces.flatMap Piece.written
  let v := String.ofList (List.replicate W.length 'x')
  let ks := ((t.pieces ++ read W).filterMap Piece.keyword?).eraseDups
  have hbind : ∀ k d, Piece.slot k d ∈ t.pieces ++ read W →
      (ks.map fun k' => (k', some v)).lookup k = some (some v) := fun k d h =>
    lookup_map_const (List.mem_eraseDups.2 (List.mem_filterMap.2 ⟨_, h, rfl⟩)) _
  have hks : ((ks.map fun k' => (k', some v)).map Prod.fst) = ks := by
    simp [Function.comp_def]
  refine ⟨ks.map fun k' => (k', some v), by rw [hks]; exact nodup_eraseDups _, by simp, fun heq => ?_⟩
  have hchain : t.pieces.IsChain (fun a b => a.isSlot ∨ b.isSlot) := by
    rw [← ofSteps_merged hrun]
    exact isChain_coalesce _
  have hwidth : widthOf W.length (read W) + t.conflicts.length ≤ widthOf W.length t.pieces :=
    widthOf_read_written hchain fun k d h => length_written_le h
  have hpos : 0 < t.conflicts.length := List.length_pos_iff.2 hconf
  -- both sides fill every slot with `v`, so their lengths are the widths at its length
  have hlen := congrArg String.length heq
  rw [Template.compile_eq_coalesce, tokens_eq_read, render_coalesce, Template.write,
    String.toList_ofList, Template.render,
    length_join_fill fun k d h => hbind k d (List.mem_append_right _ h),
    length_join_fill fun k d h => hbind k d (List.mem_append_left _ h)] at hlen
  simp only [v, String.length_ofList, List.length_replicate] at hlen
  omega

/-- A literal ending in a backslash, composed before a slot, is a conflict, and the compiled
written form renders differently. -/
theorem render_compile_write_ne_backslash :
    Template.ofSteps [.append "C:\\", .reserve "x" (some "1")] =
        .ok ⟨[.text "C:\\", .slot "x" (some "1")]⟩ ∧
      (Template.mk [.text "C:\\", .slot "x" (some "1")]).conflicts ≠ [] ∧
      ∃ σ : Bindings, (σ.map Prod.fst).Nodup ∧ (∀ b ∈ σ, b.2.isSome) ∧
        (Template.compile (Template.mk [.text "C:\\", .slot "x" (some "1")]).write).render σ ≠
          (Template.mk [.text "C:\\", .slot "x" (some "1")]).render σ := by
  have hrun : Template.ofSteps [.append "C:\\", .reserve "x" (some "1")] =
      .ok ⟨[.text "C:\\", .slot "x" (some "1")]⟩ := rfl
  have hconf : (Template.mk [.text "C:\\", .slot "x" (some "1")]).conflicts ≠ [] := by
    decide +kernel
  exact ⟨hrun, hconf, render_compile_write_ne hrun hconf⟩

/-! ## Compiled texts -/

/-- Putting a piece in front of others adds its width, joined to a literal or not. -/
theorem widthOf_consMerge (n : Nat) (p : Piece) (qs : List Piece) :
    widthOf n (consMerge p qs) = p.width n + widthOf n qs := by
  match p, qs with
  | .text a, .text b :: r => simp [Nat.add_assoc]
  | .text a, .slot k d :: r => rfl
  | .text a, [] => rfl
  | .slot k d, r => rfl

/-- Merging literals keeps the width. -/
theorem widthOf_coalesce (n : Nat) (ps : List Piece) : widthOf n (coalesce ps) = widthOf n ps := by
  induction ps with
  | nil => rfl
  | cons p ps ih => rw [coalesce_cons, widthOf_consMerge, ih, widthOf_cons]

/-- Pieces have no conflicts exactly when no literal that stands right before a slot breaks it. -/
theorem conflictsFrom_eq_nil_iff (i : Nat) (ps : List Piece) :
    conflictsFrom i ps = [] ↔
      ∀ L k d, [.text L, .slot k d] <:+: ps → breaksFollowing L = false := by
  fun_induction conflictsFrom i ps with
  | case1 i s k d r ih =>
      rw [List.append_eq_nil_iff, ih]
      constructor
      · rintro ⟨hs, hrest⟩ L k' d' hinf
        rcases List.infix_cons_iff.1 hinf with hpre | hinf
        · -- the pair starts here: its literal is `s`
          simp only [List.cons_prefix_cons, Piece.text.injEq] at hpre
          obtain ⟨rfl, -⟩ := hpre
          simpa using hs
        · exact hrest L k' d' hinf
      · intro h
        have hs := h s k d (List.prefix_iff_eq_take.2 rfl).isInfix
        exact ⟨by simp [hs], fun L k' d' hinf => h L k' d' (List.infix_cons hinf)⟩
  | case2 i p r hp ih =>
      rw [ih]
      constructor
      · intro h L k d hinf
        rcases List.infix_cons_iff.1 hinf with hpre | hinf
        · -- a literal before a slot would have been the first case
          rcases List.prefix_cons_iff.1 hpre with he | ⟨t, ht, r', hr'⟩
          · simp at he
          · obtain ⟨rfl, rfl⟩ := List.cons.inj ht
            exact (hp L k d r' rfl hr'.symm).elim
        · exact h L k d hinf
      · exact fun h L k d hinf => h L k d (List.infix_cons hinf)
  | case3 => simp

/-- A compiled text has no conflicts: no literal of it that stands right before a slot ends in an
odd run of backslashes, or holds after its last marker a `${` that is never closed. Written and
read back, the compiled pieces give the text's pieces again, and so are as wide as before, while
each conflict would make them narrower (`widthOf_read_written`). -/
theorem conflicts_compile (s : String) :
    (Template.compile s).conflicts = [] ∧
      ∀ L k d, [Piece.text L, .slot k d] <:+: (Template.compile s).pieces →
        trailingBackslashes L.toList % 2 = 0 ∧ findOpen (cut L.toList).2 = none := by
  have hps : (Template.compile s).pieces = coalesce (read s.toList) := by
    rw [Template.compile_eq_coalesce, tokens_eq_read]
  have hnil : (Template.compile s).conflicts = [] := by
    have hw := widthOf_read_written (i := 0) (isChain_coalesce (read s.toList))
      fun k d h => length_written_le h
    rw [flatMap_written_coalesce_read, read_written_read, widthOf_coalesce] at hw
    have hlen : (conflictsFrom 0 (coalesce (read s.toList))).length = 0 := by omega
    rw [Template.conflicts, hps]
    exact List.length_eq_zero_iff.1 hlen
  refine ⟨hnil, fun L k d hinf => ?_⟩
  have hb := (conflictsFrom_eq_nil_iff 0 _).1 hnil L k d hinf
  simp only [breaksFollowing, Bool.or_eq_false_iff, beq_eq_false_iff_ne,
    Option.isSome_eq_false_iff, Option.isNone_iff_eq_none] at hb
  exact ⟨by omega, hb.2⟩

end Templating
