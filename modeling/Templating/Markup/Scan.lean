/-!
# Finding markers in text

A marker is written `${` content `}`. Its content runs to the first closing brace that is not
escaped: inside it a backslash followed by a backslash or by a closing brace stands for that
second character, and any other backslash is kept as it is. A marker that is never closed ends
the search, since any later closing brace would have closed it.

The search is stated over `List Char`: `findOpen` splits off the text before the first `${`,
`scanContent` reads a content up to its closing brace, and `cut` takes the markers one after
another, each with the text between it and the previous one, and returns the text after the
last one.

## Implementation notes

`cut` recurses on the text after a marker, which is strictly shorter than the text it started
from (`nextMarker_rest_lt`), so it is defined by well-founded recursion on the length.
-/

namespace Templating.Markup

/-- A content read up to its closing brace: what it stands for, its characters as written, and
the text after the closing brace. -/
structure Closed where
  content : List Char
  body : List Char
  rest : List Char
  deriving DecidableEq, Repr

/-- Reads a content that follows an opening `${`; `none` when it is never closed. -/
def scanContent : List Char → Option Closed
  | [] => none
  | '}' :: r => some ⟨[], [], r⟩
  | '\\' :: '\\' :: r =>
      (scanContent r).map fun c => { c with content := '\\' :: c.content, body := '\\' :: '\\' :: c.body }
  | '\\' :: '}' :: r =>
      (scanContent r).map fun c => { c with content := '}' :: c.content, body := '\\' :: '}' :: c.body }
  | c :: r => (scanContent r).map fun k => { k with content := c :: k.content, body := c :: k.body }

/-- The text after a closed content is shorter than the text the content was read from. -/
theorem scanContent_rest_lt {cs : List Char} {c : Closed}
    (h : scanContent cs = some c) : c.rest.length < cs.length := by
  fun_induction scanContent cs generalizing c with
  | case1 => simp at h
  | case2 r => cases h; simp
  | case3 r ih | case4 r ih | case5 _ r _ _ _ ih =>
    obtain ⟨a, ha, rfl⟩ := Option.map_eq_some_iff.1 h
    have := ih ha
    simp; omega

/-- A character that is neither a backslash nor a closing brace stands for itself. -/
theorem scanContent_plain {c : Char} (h1 : c ≠ '\\') (h2 : c ≠ '}') (r : List Char) :
    scanContent (c :: r) =
      (scanContent r).map fun k => { k with content := c :: k.content, body := c :: k.body } := by
  rw [scanContent.eq_def]
  split <;> simp_all

/-- Splits the text at its first `${`: the text before it and the text after it. -/
def findOpen : List Char → Option (List Char × List Char)
  | [] => none
  | '$' :: '{' :: r => some ([], r)
  | c :: r => (findOpen r).map fun p => (c :: p.1, p.2)

/-- Splitting at `${` loses exactly the two characters of the opening. -/
theorem findOpen_length {cs gap after : List Char}
    (h : findOpen cs = some (gap, after)) : gap.length + after.length + 2 = cs.length := by
  fun_induction findOpen cs generalizing gap after with
  | case1 => simp at h
  | case2 r => cases h; simp
  | case3 _ r _ ih =>
    obtain ⟨⟨g, a⟩, ha, he⟩ := Option.map_eq_some_iff.1 h
    cases he
    have := ih ha
    simp; omega

/-- The number of backslashes that end a text. -/
def trailingBackslashes (cs : List Char) : Nat := (cs.reverse.takeWhile (· == '\\')).length

/-- A marker found in the text, with the text between it and the previous marker. -/
structure Found where
  gap : List Char
  closed : Closed
  deriving DecidableEq, Repr

namespace Found

/-- The marker as written, from `${` through its closing brace. -/
def raw (f : Found) : List Char := '$' :: '{' :: f.closed.body ++ ['}']

/-- The number of backslashes that end the gap and so stand right before the marker. -/
def backslashes (f : Found) : Nat := trailingBackslashes f.gap

/-- A marker is escaped when an odd run of backslashes stands right before it. -/
def escaped (f : Found) : Bool := f.backslashes % 2 == 1

end Found

/-- The first marker of the text, or `none` when no `${` is found or the first is never closed. -/
def nextMarker (cs : List Char) : Option Found :=
  match findOpen cs with
  | none => none
  | some (gap, after) => (scanContent after).map fun c => ⟨gap, c⟩

/-- The text after a marker is shorter than the text it was found in. -/
theorem nextMarker_rest_lt {cs : List Char} {f : Found}
    (h : nextMarker cs = some f) : f.closed.rest.length < cs.length := by
  unfold nextMarker at h
  split at h
  · simp at h
  · rename_i gap after hf
    obtain ⟨c, hc, rfl⟩ := Option.map_eq_some_iff.1 h
    have h1 := findOpen_length hf
    have h2 := scanContent_rest_lt hc
    simp only; omega

/-- Every marker of the text in order, and the text after the last one. -/
def cut (cs : List Char) : List Found × List Char :=
  match h : nextMarker cs with
  | none => ([], cs)
  | some f =>
      have := nextMarker_rest_lt h
      let r := cut f.closed.rest
      (f :: r.1, r.2)
termination_by cs.length

/-- A text that opens with `${` has its first marker right there. -/
theorem nextMarker_open (r : List Char) :
    nextMarker ('$' :: '{' :: r) = (scanContent r).map fun c => ⟨[], c⟩ := rfl

/-- The markers of a text are its first marker and those after it. -/
theorem cut_of_nextMarker {cs : List Char} {f : Found} (h : nextMarker cs = some f) :
    cut cs = (f :: (cut f.closed.rest).1, (cut f.closed.rest).2) := by
  rw [cut]
  split <;> simp_all

/-- The empty text has no marker. -/
theorem cut_nil : cut [] = ([], []) := by
  rw [cut]
  split
  · rfl
  · rename_i f h
    simp [nextMarker, findOpen] at h

/-- A marker placed in its text; positions count characters. `start` is where the backslashes
before it begin, `opening` is its `$`, and `stop` is one past its closing brace. -/
structure Marker where
  start : Nat
  opening : Nat
  stop : Nat
  raw : String
  content : String
  deriving DecidableEq, Repr

namespace Marker

/-- The number of backslashes right before the marker. -/
def backslashes (m : Marker) : Nat := m.opening - m.start

/-- A marker is escaped when an odd run of backslashes stands right before it. -/
def escaped (m : Marker) : Bool := m.backslashes % 2 == 1

end Marker

/-- Places found markers in the text, the first one's gap starting at `pos`. -/
def place : Nat → List Found → List Marker
  | _, [] => []
  | pos, f :: fs =>
      let opening := pos + f.gap.length
      let stop := opening + f.raw.length
      ⟨opening - f.backslashes, opening, stop, String.ofList f.raw, String.ofList f.closed.content⟩
        :: place stop fs

/-- Every marker of a text, live or escaped, left to right. -/
def markers (s : String) : List Marker := place 0 (cut s.toList).1

end Templating.Markup
