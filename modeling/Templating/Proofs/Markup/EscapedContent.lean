import Templating.Markup.Escape
import Templating.Markup.Piece

/-!
# Escaped keywords and defaults read back

`escapeContent` puts a backslash before each backslash and closing brace, and the content
scanner reads each such pair as its second character and every other character as itself, so
escaped text closed by a brace reads back as the text, the brace ending it, whatever follows.

Main statement: `tokens_escapedMarker`. A marker written from an escaped keyword and, when there
is one, a colon and an escaped default, reads as the one slot of that keyword and default, as
long as neither holds a colon.
-/

namespace Templating.Markup

/-- A marker written from an escaped keyword and default reads as their slot; the scanner reads
any escaped text closed by a brace back as the text, ending at that brace. -/
theorem tokens_escapedMarker (k : String) (d : Option String) (hk : ':' ∉ k.toList)
    (hd : ∀ e ∈ d, ':' ∉ e.toList) :
    (∀ x rest : String, scanContent (escapeContent x ++ "\x7d" ++ rest).toList =
        some ⟨x.toList, (escapeContent x).toList, rest.toList⟩) ∧
    tokens ("$\x7b" ++ escapeContent k ++ (d.map fun e => ":" ++ escapeContent e).getD "" ++
      "\x7d") = [.slot k d] := by
  refine ⟨fun x rest => ?_, ?_⟩
  · simpa [escapeContent] using scanContent_escapeChars_close x.toList rest.toList
  · cases d with
    | none =>
      have hm : nextMarker ("$\x7b" ++ escapeContent k ++ "" ++ "\x7d").toList =
          some ⟨[], ⟨k.toList, escapeChars k.toList, []⟩⟩ := by
        simp [escapeContent, nextMarker_open, scanContent_escapeChars_close]
      simp only [Option.map_none, Option.getD_none]
      rw [tokens, cut_of_nextMarker hm]
      simp [cut_nil, Found.pieces_gap_nil, splitContent_of_colonFree hk]
    | some e =>
      have he : ':' ∉ e.toList := hd e rfl
      have hc : scanContent ['}'] = some ⟨[], [], []⟩ := rfl
      have hm : nextMarker ("$\x7b" ++ escapeContent k ++ (":" ++ escapeContent e) ++
          "\x7d").toList =
          some ⟨[], ⟨k.toList ++ ':' :: e.toList,
            escapeChars k.toList ++ ':' :: escapeChars e.toList, []⟩⟩ := by
        simp [escapeContent, nextMarker_open, scanContent_escapeChars, scanContent_plain, hc]
      simp only [Option.map_some, Option.getD_some]
      rw [tokens, cut_of_nextMarker hm]
      simp [cut_nil, Found.pieces_gap_nil, splitContent_colonFree hk he]

/-- A keyword with a closing brace and a backslash, and a default with a backslash, read back
from their marker. -/
theorem tokens_escapedMarker_braceAndBackslash :
    ':' ∉ "k\x7d\\".toList ∧ (∀ e ∈ some "x\\y", ':' ∉ e.toList) ∧
    tokens ("$\x7b" ++ escapeContent "k\x7d\\" ++
      ((some "x\\y").map fun e => ":" ++ escapeContent e).getD "" ++ "\x7d") =
      [.slot "k\x7d\\" (some "x\\y")] :=
  ⟨by decide, by simp, (tokens_escapedMarker "k\x7d\\" (some "x\\y") (by decide) (by simp)).2⟩

end Templating.Markup
