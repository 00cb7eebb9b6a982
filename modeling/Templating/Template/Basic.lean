import Templating.Markup.Piece
import Templating.Markup.Escape
import Templating.Data.Value

/-!
# Compiled templates

A template is a list of pieces. Everything else about it is read off that list: the keyword that
owns each position, the index from each keyword to its positions, the keywords in order of first
occurrence, and the text it renders to under a set of bindings.

Rendering fills every slot whose keyword is bound with the bound text, and every other slot with
its default. A slot with neither renders as `null`, and so does a slot whose keyword is bound to
no text.

A template is written as text piece by piece: literal text with each live marker escaped, and a
slot as `${keyword}` or `${keyword:default}` with its keyword and default escaped for a marker's
content. Reading that text back gives the same pieces unless a literal that is followed by a
slot would break the slot's marker: `conflicts` lists the positions of those literals.

A template is described by one entry per position: a literal gives its text, a slot its keyword
and its default, which is null when it has none.

## Implementation notes

The index is derived, not stored: a builder appends positions in increasing order and opens an
index entry at a keyword's first slot, so the stored index of a built template is always this one.
Two templates are then equal exactly when their pieces are.
-/

namespace Templating

open Markup

/-- A compiled template: its pieces, in order. -/
structure Template where
  pieces : List Piece
  deriving DecidableEq, Repr

/-- Replacement texts by keyword. A keyword bound to `none` leaves its slots unset. -/
abbrev Bindings := List (String × Option String)

/-- The text that an unset slot renders to. -/
def unsetText : String := "null"

namespace Template

/-- The number of pieces. -/
def length (t : Template) : Nat := t.pieces.length

/-- The keyword owning each position, `none` for literal text. -/
def owners (t : Template) : List (Option String) := t.pieces.map Piece.keyword?

/-- The keyword owning a position, `none` for literal text or a position past the end. -/
def keywordAt (t : Template) (i : Nat) : Option String := (t.pieces[i]?).bind Piece.keyword?

/-- The text of each position: a literal's text, or a slot's default. -/
def segments (t : Template) : List (Option String) :=
  t.pieces.map fun
    | .text s => some s
    | .slot _ d => d

/-- The keywords, each once, in order of first occurrence. -/
def keywords (t : Template) : List String := (t.pieces.filterMap Piece.keyword?).eraseDups

/-- The positions a keyword owns, in increasing order. -/
def positions (t : Template) (k : String) : List Nat :=
  (t.pieces.zipIdx).filterMap fun (p, i) => if p.keyword? = some k then some i else none

/-- Each keyword with the positions it owns, keywords in order of first occurrence. -/
def index (t : Template) : List (String × List Nat) := t.keywords.map fun k => (k, t.positions k)

/-- The number of slots. -/
def slotCount (t : Template) : Nat := (t.pieces.filter Piece.isSlot).length

end Template

/-- The text a piece renders to under the bindings. -/
def Markup.Piece.fill (σ : Bindings) : Piece → String
  | .text s => s
  | .slot k d => ((σ.lookup k).getD d).getD unsetText

namespace Template

/-- The text a template renders to under the bindings. -/
def render (t : Template) (σ : Bindings) : String := String.join (t.pieces.map (Piece.fill σ))

/-- One binding's turn in a working copy of the segments: every position the index gives for its
keyword takes its part; a keyword the index does not know changes nothing. -/
def fillKeyword (ix : List (String × List Nat)) (w : Array (Option String))
    (b : String × Option String) : Array (Option String) :=
  match ix.lookup b.1 with
  | none => w
  | some ps => ps.foldl (fun w p => w.setIfInBounds p b.2) w

/-- The text a template renders to, computed as a renderer does: a working copy of the segments
is overwritten binding by binding, in the order of the bindings, at the positions of the
binding's keyword, and joined with `null` for each part that is unset. Under bindings with one
entry for each keyword it is `render` (`process_eq_render`). -/
def process (t : Template) (σ : Bindings) : String :=
  let working := σ.foldl (fillKeyword t.index) t.segments.toArray
  String.join (working.toList.map fun part => part.getD unsetText)

@[simp] theorem length_mk (ps : List Piece) : (Template.mk ps).length = ps.length := rfl

@[simp] theorem render_mk (ps : List Piece) (σ : Bindings) :
    (Template.mk ps).render σ = String.join (ps.map (Piece.fill σ)) := rfl

end Template

/-! ## Writing templates back as text -/

/-- A piece written as template text. -/
def Markup.Piece.written : Piece → List Char
  | .text s => (escapeLiteral s).toList
  | .slot k d =>
      '$' :: '{' :: escapeChars k.toList ++
        (match d with
          | none => []
          | some d => ':' :: escapeChars d.toList) ++ ['}']

/-- The positions of literals, each followed by a slot, that would break the slot's marker,
counting from `i`. -/
def conflictsFrom : Nat → List Piece → List Nat
  | i, .text s :: .slot k d :: r =>
      (if breaksFollowing s then [i] else []) ++ conflictsFrom (i + 1) (.slot k d :: r)
  | i, _ :: r => conflictsFrom (i + 1) r
  | _, [] => []

namespace Template

/-- The template written as text. -/
def write (t : Template) : String := String.ofList (t.pieces.flatMap Piece.written)

/-- The positions of literals that `write` cannot write faithfully. -/
def conflicts (t : Template) : List Nat := conflictsFrom 0 t.pieces

end Template

/-! ## Describing templates -/

/-- The entry of a piece at a position. -/
def Markup.Piece.describe (i : Nat) : Piece → Value
  | .text s => .record [("position", .int i), ("kind", .str "literal"), ("text", .str s)]
  | .slot k d =>
      .record [("position", .int i), ("kind", .str "placeholder"), ("keyword", .str k),
        ("default", match d with
          | some d => .str d
          | none => .null)]

/-- One entry per position of the template. -/
def Template.describe (t : Template) : List Value :=
  t.pieces.zipIdx.map fun (p, i) => p.describe i

end Templating
