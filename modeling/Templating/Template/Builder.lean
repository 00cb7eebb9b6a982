import Templating.Template.Basic
import Templating.Failure

/-!
# Building templates

A builder collects pieces: appended text extends the last piece while a literal is open, or else
starts one and opens it, and a reserved slot is always a piece of its own and closes the
literal. An open literal is always the last piece, so appending extends exactly a literal that
ends the pieces. Composing appends the pieces of a text
or of a built template in the same way. `build` hands out the template and spends the builder;
every later step fails and names the step and the number of pieces.

The builder also records the keyword index as it goes: a reserved slot's position is put under
its keyword, and a keyword's first slot opens its entry after the others. A template reads its
index off its pieces instead; the two agree on every run.

Compiling a text is building from a fresh builder that composes the text, so adjacent literal
pieces of the text merge into one.

A `Session` is a caller that holds a builder and the templates it has built, and goes on after a
refused step.
-/

namespace Templating

open Markup

/-- Appends a piece: text extends a literal that ends the list, a slot is added. -/
def addPiece : List Piece → Piece → List Piece
  | ps, .slot k d => ps ++ [.slot k d]
  | ps, .text s =>
      match ps.getLast? with
      | some (.text t) => ps.dropLast ++ [.text (t ++ s)]
      | _ => ps ++ [.text s]

/-- Whether pieces end in a literal, the piece an appended text would extend. -/
def endsInLiteral (ps : List Piece) : Bool :=
  match ps.getLast? with
  | some (.text _) => true
  | _ => false

/-- Adds text to the last piece, as `append` does while a literal is open: the last segment, an
unset default read as empty, followed by the text. An open literal always has a last piece
that is a literal, so only the first case is ever taken. -/
def extendLast (ps : List Piece) (s : String) : List Piece :=
  match ps.getLast? with
  | some (.text t) => ps.dropLast ++ [.text (t ++ s)]
  | some (.slot k d) => ps.dropLast ++ [.slot k (some (d.getD "" ++ s))]
  | none => ps

/-- Puts a piece on pieces kept last first: text extends a literal in front, a slot is added. -/
def pushPiece : List Piece → Piece → List Piece
  | .text t :: rest, .text s => .text (t ++ s) :: rest
  | rs, p => p :: rs

/-- Appends pieces one after another, as `addPiece` does each, in time linear in the pieces. -/
def addPieces (ps : List Piece) (items : List Piece) : List Piece :=
  (items.foldl pushPiece ps.reverse).reverse

/-- Putting a piece on the reversed pieces is appending it. -/
theorem reverse_pushPiece (rs : List Piece) (p : Piece) :
    (pushPiece rs p).reverse = addPiece rs.reverse p := by
  match rs, p with
  | .text t :: rest, .text s => simp [pushPiece, addPiece]
  | [], .text s => simp [pushPiece, addPiece]
  | .slot k d :: rest, .text s => simp [pushPiece, addPiece]
  | rs, .slot k d =>
      cases rs with
      | nil => simp [pushPiece, addPiece]
      | cons r rest => cases r <;> simp [pushPiece, addPiece]

/-- Appending pieces is appending them one after another. -/
theorem addPieces_eq_foldl (ps items : List Piece) : addPieces ps items = items.foldl addPiece ps := by
  induction items generalizing ps with
  | nil => simp [addPieces]
  | cons p items ih =>
      simp only [addPieces, List.foldl_cons] at ih ⊢
      have h := reverse_pushPiece ps.reverse p
      rw [List.reverse_reverse] at h
      rw [← ih (addPiece ps p), ← h, List.reverse_reverse]

/-- What a composing step appends: a text, read into pieces, or a built template. -/
inductive Source where
  | text (s : String)
  | template (t : Template)
  deriving Repr

/-- The pieces a source appends, in order. -/
def Source.items : Source → List Piece
  | .text s => tokens s
  | .template t => t.pieces

/-- The template a text compiles to. -/
def Template.compile (s : String) : Template := ⟨addPieces [] (tokens s)⟩

/-- The checks a builder makes before a step; `format` makes the check of `appendTemplate`. -/
inductive Check where
  | append
  | reserve
  | appendTemplate
  | build
  deriving DecidableEq, Repr

/-- The name a check reports. -/
def Check.name : Check → String
  | .append => "append"
  | .reserve => "reserve"
  | .appendTemplate => "append_template"
  | .build => "build"

/-- A step that a spent builder refused: the check that failed and the number of pieces. -/
structure Spent where
  check : Check
  segments : Nat
  deriving DecidableEq, Repr

/-- The message of a refused step. -/
def Spent.message (e : Spent) : String :=
  "TemplateBuilder." ++ e.check.name ++ "() called after build()"

/-- The failure a refused step reports. -/
def Spent.toFailure (e : Spent) : Failure :=
  ⟨.builderSpent, e.message, [("operation", .str e.check.name), ("segments", .int e.segments)]⟩

/-- Puts a slot position under its keyword, at the end of the keyword's entry, or in a new entry
after the others when the keyword has none. -/
def recordSlot (k : String) (i : Nat) : List (String × List Nat) → List (String × List Nat)
  | [] => [(k, [i])]
  | (k', ps) :: rest => if k' = k then (k', ps ++ [i]) :: rest else (k', ps) :: recordSlot k i rest

/-- A builder: the pieces so far, the keyword index it has recorded, whether a literal is open
for the next append to extend, and whether `build` has spent it. -/
structure Builder where
  pieces : List Piece := []
  index : List (String × List Nat) := []
  literalOpen : Bool := false
  spent : Bool := false
  deriving Repr

/-- A step of a builder run. -/
inductive Step where
  | append (s : String)
  | reserve (keyword : String) (default : Option String)
  | appendTemplate (src : Source)
  | format (src : Source)
  | build
  deriving Repr

namespace Step

/-- The check a step makes. -/
def check : Step → Check
  | append _ => .append
  | reserve _ _ => .reserve
  | appendTemplate _ => .appendTemplate
  | format _ => .appendTemplate
  | build => .build

/-- Whether the step is a deprecated spelling of another. -/
def deprecated : Step → Bool
  | format _ => true
  | _ => false

/-- The pieces the step appends. -/
def items : Step → List Piece
  | append s => [.text s]
  | reserve k d => [.slot k d]
  | appendTemplate src => src.items
  | format src => src.items
  | build => []

end Step

namespace Builder

/-- The number of pieces. -/
def size (b : Builder) : Nat := b.pieces.length

/-- The template of the pieces so far. -/
def template (b : Builder) : Template := ⟨b.pieces⟩

/-- Appends one piece as `append` and `reserve` do: text extends the last piece while a literal
is open, and otherwise is a new piece that opens one; a slot is a new piece whose position goes
into the index, and it closes the literal. -/
def add (b : Builder) : Piece → Builder
  | .text s =>
      if b.literalOpen then { b with pieces := extendLast b.pieces s }
      else { b with pieces := b.pieces ++ [.text s], literalOpen := true }
  | .slot k d =>
      { b with pieces := b.pieces ++ [.slot k d], index := recordSlot k b.size b.index,
               literalOpen := false }

/-- Hands out the template and spends the builder; a spent builder refuses. -/
def build (b : Builder) : Except Spent (Builder × Template) :=
  if b.spent then .error ⟨.build, b.size⟩ else .ok ({ b with spent := true }, b.template)

/-- Runs one step: the builder after it, and the template when the step builds. -/
def step (b : Builder) : Step → Except Spent (Builder × Option Template)
  | .build => b.build.map fun (b', t) => (b', some t)
  | s => if b.spent then .error ⟨s.check, b.size⟩ else .ok (s.items.foldl add b, none)

/-- Runs the steps one after another; a refused step ends the run with its refusal. -/
def run (b : Builder) : List Step → Except Spent Builder
  | [] => .ok b
  | s :: rest => do
      let (b', _) ← b.step s
      b'.run rest

end Builder

/-- The template a fresh builder builds after the steps. -/
def Template.ofSteps (steps : List Step) : Except Spent Template := do
  let b ← ({} : Builder).run steps
  let (_, t) ← b.build
  pure t

/-- A caller holding a builder: the builder, and the templates it has built so far. A refused
step fails before it changes anything, so a caller that goes on after it keeps both as they
were. -/
structure Session where
  builder : Builder := {}
  built : List Template := []
  deriving Repr

namespace Session

/-- Runs one step for the caller: the session after it, and what the step gave, or its
refusal. -/
def step (ss : Session) (s : Step) : Session × Except Spent (Option Template) :=
  match ss.builder.step s with
  | .ok (b, t) => (⟨b, ss.built ++ t.toList⟩, .ok t)
  | .error e => (ss, .error e)

/-- Runs the steps one after another, going on after a refused step: the session at the end,
and what each step gave. -/
def run (ss : Session) : List Step → Session × List (Except Spent (Option Template))
  | [] => (ss, [])
  | s :: rest =>
      let (ss', a) := ss.step s
      let (ss'', as) := ss'.run rest
      (ss'', a :: as)

end Session

end Templating
