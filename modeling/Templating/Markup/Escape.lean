import Templating.Markup.Scan

/-!
# Escaping text for markers

Three rules keep text faithful when it is written next to markers.

* `escapeLiteral` puts one backslash right before each live `${`, which makes the run before it
  odd, so the whole text reads back as literal text; escaped markers stay as they are.
* `escapeContent` writes a backslash and a closing brace with a backslash before them, so they
  read back inside a marker's content.
* `breaksFollowing` tells whether a marker written right after a text would not read as live:
  the text ends in an odd run of backslashes, or it holds a `${` that is never closed.
-/

namespace Templating.Markup

/-- The text with a backslash put before each live marker. -/
def escapeLiteral (s : String) : String :=
  let c := cut s.toList
  String.ofList
    (c.1.flatMap (fun f => f.gap ++ (if f.escaped then f.raw else '\\' :: f.raw)) ++ c.2)

/-- Writes a text so that it reads back as itself inside a marker's content. -/
def escapeChars : List Char → List Char
  | [] => []
  | c :: r => (if c = '\\' ∨ c = '}' then ['\\', c] else [c]) ++ escapeChars r

/-- Writes a text so that it reads back as itself inside a marker's content. -/
def escapeContent (s : String) : String := String.ofList (escapeChars s.toList)

/-- The content scanner reads escaped text back as the text, whatever follows it. -/
theorem scanContent_escapeChars (x r : List Char) :
    scanContent (escapeChars x ++ r) =
      (scanContent r).map fun k =>
        { k with content := x ++ k.content, body := escapeChars x ++ k.body } := by
  induction x with
  | nil => cases h : scanContent r <;> simp [escapeChars, h]
  | cons c x ih =>
    by_cases h1 : c = '\\'
    · subst h1
      cases h : scanContent r <;> simp [escapeChars, scanContent, ih, h]
    · by_cases h2 : c = '}'
      · subst h2
        cases h : scanContent r <;> simp [escapeChars, scanContent, ih, h]
      · have e : escapeChars (c :: x) = c :: escapeChars x := by simp [escapeChars, h1, h2]
        rw [e, List.cons_append, scanContent_plain h1 h2, ih]
        cases scanContent r <;> simp

/-- Escaped text closed by a brace reads back as the text, the brace ending it. -/
theorem scanContent_escapeChars_close (x rest : List Char) :
    scanContent (escapeChars x ++ '}' :: rest) = some ⟨x, escapeChars x, rest⟩ := by
  rw [scanContent_escapeChars]
  simp [scanContent]

/-- Whether a marker written right after the text would fail to read as live. -/
def breaksFollowing (s : String) : Bool :=
  let cs := s.toList
  trailingBackslashes cs % 2 == 1 || (findOpen (cut cs).2).isSome

end Templating.Markup
