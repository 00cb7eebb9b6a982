import Templating.Proofs.Markup.Reading

/-!
# Escaped literals read back

`escapeLiteral` puts a backslash before each live marker of a text and leaves its escaped markers
as they are. Read back, every marker is then escaped, so the text reads as literal text only. A
marker that was live comes back as written, its inserted backslash dropped again; a marker that
was escaped already loses one backslash of its own. The literals therefore join to the text
exactly when it holds no escaped marker, and are one character shorter for each escaped marker
it holds (`tokens_escapeLiteral`); `\${x}` reads back as `${x}`.
-/

namespace Templating.Markup

/-- A marker with its gap, as an escaped text reads it back: the gap loses its last backslash
when the marker was escaped already. -/
def Found.unescaped (f : Found) : List Char :=
  (if f.escaped then f.gap.dropLast else f.gap) ++ f.raw

/-- The texts an escaped text reads back as: one for each marker with its gap, and one for what
follows the last marker, when something does. -/
def unescapedTexts (cs : List Char) : List String :=
  (cut cs).1.map (fun f => String.ofList f.unescaped) ++
    if (cut cs).2.isEmpty then [] else [String.ofList (cut cs).2]

/-- An escaped text reads back as literal text only. -/
theorem read_escapeText (cs : List Char) :
    read (escapeText cs) = (unescapedTexts cs).map Piece.text := by
  have h := read_escapeText_append_cut cs []
  rw [List.append_nil, List.append_nil, read_of_none (nextMarker_cut_snd cs)] at h
  rw [h, unescapedTexts, List.map_append, List.map_map]
  unfold tailPieces
  split <;> rfl

theorem toList_join_unescapedTexts (cs : List Char) :
    (String.join (unescapedTexts cs)).toList = (cut cs).1.flatMap Found.unescaped ++ (cut cs).2 := by
  unfold unescapedTexts
  rw [String.toList_join, List.flatMap_append, List.flatMap_map]
  simp only [String.toList_ofList]
  split
  · rename_i h
    simp [List.isEmpty_iff.1 h]
  · simp

/-- An escaped marker's gap holds at least its last backslash. -/
theorem Found.one_le_gap_length {f : Found} (he : f.escaped = true) : 1 ≤ f.gap.length := by
  have hodd := (Found.escaped_eq_true_iff f).1 he
  have := trailingBackslashes_le_length f.gap
  omega

/-- Reading back loses one character for each escaped marker and nothing else. -/
theorem length_unescaped_cut (cs : List Char) :
    ((cut cs).1.flatMap Found.unescaped).length + (cut cs).1.countP Found.escaped +
      (cut cs).2.length = cs.length := by
  induction cs using cut.induct with
  | case1 x h => simp [cut_of_none h]
  | case2 x f h _ ih =>
      obtain ⟨-, -, hx⟩ := nextMarker_spec h
      rw [cut_of_nextMarker h, hx]
      -- the marker's own part: its gap, less one backslash when it was escaped
      have hf : f.unescaped.length + (if f.escaped then 1 else 0) = f.gap.length + f.raw.length := by
        unfold Found.unescaped
        cases he : f.escaped
        · simp
        · have := Found.one_le_gap_length he
          simp
          omega
      simp only [List.flatMap_cons, List.countP_cons, List.length_append] at ih ⊢
      omega

/-- The texts read back join to the text exactly when none of its markers is escaped. -/
theorem unescaped_cut_eq_iff (cs : List Char) :
    (cut cs).1.flatMap Found.unescaped ++ (cut cs).2 = cs ↔ ∀ f ∈ (cut cs).1, f.escaped = false := by
  constructor
  · intro h f hf
    have hlen := length_unescaped_cut cs
    rw [← congrArg List.length h, List.length_append] at hlen
    have hzero : (cut cs).1.countP Found.escaped = 0 := by omega
    simpa using List.countP_eq_zero.1 hzero f hf
  · intro hlive
    have hf : (cut cs).1.map Found.unescaped = (cut cs).1.map (fun f => f.gap ++ f.raw) :=
      List.map_congr_left fun f hf => by simp [Found.unescaped, hlive f hf]
    rw [List.flatMap_def, hf, ← List.flatMap_def]
    exact (cut_spec cs).symm

/-- Placing markers keeps how many of them are escaped. -/
theorem countP_escaped_markers (s : String) :
    (markers s).countP Marker.escaped = (cut s.toList).1.countP Found.escaped := by
  have h := congrArg (List.countP id) (place_escaped 0 (cut s.toList).1)
  unfold markers
  simpa [List.countP_map] using h

/-- Escaping a text and reading it back gives literal text only. The literals join to the text
with one backslash less before each marker that was escaped already: they are shorter by the
number of such markers, and join to the text itself exactly when it holds none. -/
theorem tokens_escapeLiteral (L : String) :
    ∃ ts : List String, tokens (escapeLiteral L) = ts.map Piece.text ∧
      (String.join ts).length + (markers L).countP Marker.escaped = L.length ∧
      (String.join ts = L ↔ ∀ m ∈ markers L, m.escaped = false) := by
  refine ⟨unescapedTexts L.toList, ?_, ?_, ?_⟩
  · rw [tokens_eq_read, escapeLiteral_eq, String.toList_ofList, read_escapeText]
  · have hlen := length_unescaped_cut L.toList
    rw [← String.length_toList, ← String.length_toList, toList_join_unescapedTexts,
      countP_escaped_markers, List.length_append]
    omega
  · rw [← String.toList_inj, toList_join_unescapedTexts, unescaped_cut_eq_iff]
    constructor
    · intro hlive m hm
      have hcount : (markers L).countP Marker.escaped = 0 := by
        rw [countP_escaped_markers]
        exact List.countP_eq_zero.2 fun f hf => by simp [hlive f hf]
      simpa using List.countP_eq_zero.1 hcount m hm
    · exact escaped_eq_false_of_markers

/-- A text holding an escaped marker does not read back as itself once escaped: `\${x}` is left
as it is by escaping, and reads back as the literal `${x}`. -/
theorem tokens_escapeLiteral_escapedMarker :
    ¬ ∃ ts : List String, tokens (escapeLiteral "\\${x}") = ts.map Piece.text ∧
      String.join ts = "\\${x}" := by
  rintro ⟨ts, hts, hjoin⟩
  have hread : tokens (escapeLiteral "\\${x}") = [.text "${x}"] := by decide +kernel
  rw [hread] at hts
  obtain ⟨t, rfl, ht⟩ : ∃ t, ts = [t] ∧ Piece.text "${x}" = .text t := by
    match ts, hts with
    | [t], h => exact ⟨t, rfl, (List.cons.inj h).1⟩
  rw [Piece.text.injEq] at ht
  subst ht
  exact absurd hjoin (by decide)

end Templating.Markup
