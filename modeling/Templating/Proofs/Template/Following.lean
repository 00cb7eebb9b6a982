import Templating.Proofs.Template.ReadBack

/-!
# A slot written right after a literal

When a template is written, each slot's marker follows the text its literal was written as. That
text has every live marker of the literal escaped, so the scanner reads its markers as literal
text and then meets what is left after the last of them. What the slot's marker reads as then
depends on that rest alone, in one of three ways:

* the rest holds no `${` and ends in an even run of backslashes: the marker reads as a slot;
* the rest holds no `${` and ends in an odd run: the marker is escaped, and reads as literal text;
* the rest holds a `${` that is never closed: that `${` reads on through the marker, up to the
  marker's closing brace, and the two read as one marker.

`breaksFollowing` tells the first case from the other two, so it is exact: the slot reads back
as itself after the literal exactly when the literal does not break it
(`tokens_escapeLiteral_append_slot`).
-/

namespace Templating

open Markup

/-! ## A content that is never closed -/

/-- A content that is never closed reads on, unchanged, into any text that starts with a
character its last backslash cannot pair with. -/
theorem scanContent_append_of_none {a : List Char} (ha : scanContent a = none) {c : Char}
    (hc1 : c ≠ '\\') (hc2 : c ≠ '}') (r : List Char) :
    ∃ pre, scanContent (a ++ c :: r) =
      (scanContent (c :: r)).map fun k =>
        { k with content := pre ++ k.content, body := a ++ k.body } := by
  fun_induction scanContent a with
  | case1 => exact ⟨[], by simp⟩
  | case2 r' => simp at ha
  | case3 r' ih =>
      obtain ⟨pre, hp⟩ := ih (Option.map_eq_none_iff.1 ha)
      refine ⟨'\\' :: pre, ?_⟩
      simp [scanContent, hp, Option.map_map, Function.comp_def]
  | case4 r' ih =>
      obtain ⟨pre, hp⟩ := ih (Option.map_eq_none_iff.1 ha)
      refine ⟨'}' :: pre, ?_⟩
      simp [scanContent, hp, Option.map_map, Function.comp_def]
  | case5 c0 r' h1 h2 h3 ih =>
      obtain ⟨pre, hp⟩ := ih (Option.map_eq_none_iff.1 ha)
      -- what follows `c0` starts as it did, or with `c`, so `c0` still reads as itself
      have h2' : ∀ r1, c0 = '\\' → r' ++ c :: r = '\\' :: r1 → False := by
        intro r1 hc he
        rcases List.append_eq_cons_iff.1 he with ⟨-, he'⟩ | ⟨bs, hb, -⟩
        · exact hc1 (List.cons.inj he').1
        · exact h2 bs hc hb
      have h3' : ∀ r1, c0 = '\\' → r' ++ c :: r = '}' :: r1 → False := by
        intro r1 hc he
        rcases List.append_eq_cons_iff.1 he with ⟨-, he'⟩ | ⟨bs, hb, -⟩
        · exact hc2 (List.cons.inj he').1
        · exact h3 bs hc hb
      refine ⟨c0 :: pre, ?_⟩
      rw [List.cons_append, scanContent.eq_5 _ _ h1 h2' h3', hp]
      simp [Option.map_map, Function.comp_def]

/-! ## The three ways a slot reads after a text -/

/-- A slot written after a text without `${` that ends in an odd run of backslashes is escaped:
it reads as one literal, the text without its last backslash and the marker as written. -/
theorem read_slot_append_escaped {t : List Char} (ht : findOpen t = none)
    (hb : trailingBackslashes t % 2 = 1) (k : String) (d : Option String) (z : List Char) :
    read (t ++ (Piece.slot k d).written ++ z) =
      .text (String.ofList (t.dropLast ++ (Piece.slot k d).written)) :: read z := by
  have he : Found.escaped ⟨t, ⟨slotContent k d, slotBody k d, []⟩⟩ = true :=
    (Found.escaped_eq_true_iff _).2 hb
  rw [read_of_some (nextMarker_append_written ht k d z), Found.pieces_rest]
  simp [Found.pieces, he, Found.raw, written_slot]

/-- A slot written after a text whose last `${` is never closed is swallowed: that `${` reads on
through the slot's marker to its closing brace, and the two read as one marker after the text
before the `${`. -/
theorem read_slot_append_unclosed {t g a : List Char} (hf : findOpen t = some (g, a))
    (ha : scanContent a = none) (k : String) (d : Option String) (z : List Char) :
    ∃ c : Closed, c.body = a ++ '$' :: '{' :: slotBody k d ∧
      read (t ++ (Piece.slot k d).written ++ z) = Found.pieces ⟨g, c⟩ ++ read z := by
  obtain ⟨hg, rfl⟩ := findOpen_spec hf
  have hM : scanContent ('$' :: '{' :: (slotBody k d ++ '}' :: z)) =
      some ⟨'$' :: '{' :: slotContent k d, '$' :: '{' :: slotBody k d, z⟩ := by
    rw [scanContent_plain (by decide) (by decide), scanContent_plain (by decide) (by decide),
      slotBody_sound k d z]
    rfl
  obtain ⟨pre, hp⟩ := scanContent_append_of_none ha (c := '$') (by decide) (by decide)
    ('{' :: (slotBody k d ++ '}' :: z))
  refine ⟨⟨pre ++ '$' :: '{' :: slotContent k d, a ++ '$' :: '{' :: slotBody k d, z⟩, rfl, ?_⟩
  have hm : nextMarker (g ++ '$' :: '{' :: a ++ (Piece.slot k d).written ++ z) =
      some ⟨g, ⟨pre ++ '$' :: '{' :: slotContent k d, a ++ '$' :: '{' :: slotBody k d, z⟩⟩ := by
    rw [written_slot]
    simp only [List.append_assoc, List.cons_append, List.nil_append]
    rw [nextMarker, findOpen_append_open hg]
    dsimp only
    rw [hp, hM]
    rfl
  rw [read_of_some hm]

/-- The pieces a marker reads as are one literal and a slot only when the marker is live and
the literal is its whole gap. -/
theorem Found.pieces_eq_text_slot {f : Found} {t : List Char} {k : String}
    {d : Option String} (h : f.pieces = [.text (String.ofList t), .slot k d]) :
    f.escaped = false ∧ f.gap = t := by
  cases he : f.escaped
  case true => simp [Found.pieces, he] at h
  case false =>
    refine ⟨rfl, ?_⟩
    rw [Found.pieces_live he] at h
    unfold tailPieces at h
    split at h
    · simp at h
    · obtain ⟨hg, -⟩ := by simpa using h
      simpa using congrArg String.toList hg

/-- After the text left over by the markers of a literal, a slot written with a keyword and a
default without colons reads back as itself exactly when that text holds no `${` and ends in an
even run of backslashes. -/
theorem read_append_slot_iff {t : List Char} (ht : nextMarker t = none) {k : String}
    {d : Option String} (hkd : ColonFree k d) :
    read (t ++ (Piece.slot k d).written) = tailPieces t ++ [.slot k d] ↔
      findOpen t = none ∧ trailingBackslashes t % 2 = 0 := by
  constructor
  · intro h
    cases hf : findOpen t with
    | none =>
        refine ⟨rfl, ?_⟩
        by_contra hb
        have he := read_slot_append_escaped hf (by omega) k d []
        rw [List.append_nil, read_nil] at he
        rw [he] at h
        -- an escaped slot leaves a literal last, where a slot should be
        have hl := congrArg List.getLast? h
        simp [List.getLast?_append] at hl
    | some p =>
        obtain ⟨g, a⟩ := p
        obtain ⟨-, hta⟩ := findOpen_spec hf
        have ha : scanContent a = none := by
          simpa [nextMarker, hf] using ht
        obtain ⟨c, -, hr⟩ := read_slot_append_unclosed hf ha k d []
        rw [List.append_nil, read_nil, List.append_nil] at hr
        have hne : t ≠ [] := by simp [hta]
        have htail : tailPieces t = [.text (String.ofList t)] := by simp [tailPieces, hne]
        rw [hr, htail] at h
        -- the swallowing marker's gap stops before its `${`, so it is not the whole text
        have hgap : g = t := (Found.pieces_eq_text_slot h).2
        rw [hgap] at hta
        have hlen := congrArg List.length hta
        simp at hlen
  · rintro ⟨hf, hb⟩
    simpa using read_slot_append hf hb hkd []

/-! ## Literals that break the slot after them -/

/-- A marker written as a keyword and a default, each escaped for a marker's content, reads back
after an escaped literal as the slot of that keyword and default exactly when the literal does
not break a following marker. The literal's own pieces are unchanged in either case. -/
theorem tokens_escapeLiteral_append_slot (L k : String) (d : Option String)
    (hkd : ColonFree k d) :
    tokens (escapeLiteral L ++
        ("$\x7b" ++ escapeContent k ++
          d.elim "" (fun e => ":" ++ escapeContent e) ++ "\x7d")) =
        tokens (escapeLiteral L) ++ [.slot k d] ↔
      breaksFollowing L = false := by
  have hM : ("$\x7b" ++ escapeContent k ++ d.elim "" (fun e => ":" ++ escapeContent e) ++
      "\x7d").toList = (Piece.slot k d).written := by
    cases d <;> simp [Piece.written, escapeContent]
  have hleft := read_escapeText_append_cut L.toList (Piece.slot k d).written
  have hright := read_escapeText_append_cut L.toList []
  rw [List.append_nil, List.append_nil] at hright
  rw [tokens_eq_read, tokens_eq_read, String.toList_append, hM, escapeLiteral_eq,
    String.toList_ofList, hleft, hright, List.append_assoc, List.append_cancel_left_eq,
    read_of_none (nextMarker_cut_snd _), read_append_slot_iff (nextMarker_cut_snd _) hkd]
  simp [breaksFollowing, trailingBackslashes_cut, and_comm]

/-- A literal that ends in a `${` never closed breaks the slot written after it. -/
theorem tokens_escapeLiteral_append_slot_unclosed :
    ColonFree "k" (some "v") ∧
      (tokens (escapeLiteral "a $\x7bx" ++
          ("$\x7b" ++ escapeContent "k" ++
            (some "v").elim "" (fun e => ":" ++ escapeContent e) ++ "\x7d")) =
          tokens (escapeLiteral "a $\x7bx") ++ [.slot "k" (some "v")] ↔
        breaksFollowing "a $\x7bx" = false) :=
  ⟨by decide, tokens_escapeLiteral_append_slot "a $\x7bx" "k" (some "v") (by decide)⟩

end Templating
